import Conformance.Proofs.Descending
import Conformance.Proofs.SourceLines
import Conformance.Session
import Mathlib.Data.List.TakeWhile

/-!
# File names and arguments

What a file name is cut into at its last dot, and which argument a file is launched with: its path,
or for a suite the name in front of the extension. Main statement: the argument that a session uses
is that one.
-/

namespace Conformance

namespace Path

variable {p : Path} {name stem extension : String}

/-- A file name has no slash. -/
theorem noSlash_of_fileName? (named : p.fileName? = some name) : '/' ∉ name.toList := by
  have last : Component.name name ∈ p.components := by
    rw [fileName?] at named
    cases ends : p.components.getLast? with
    | none => simp [ends] at named
    | some component =>
      cases component with
      | name text =>
        obtain rfl : text = name := by simpa [ends] using named
        exact List.mem_of_getLast? ends
      | _ => simp [ends] at named
  rw [components, List.mem_append, List.mem_filterMap] at last
  obtain first | ⟨part, member, read⟩ := last
  · split_ifs at first <;> simp at first
  · have same : part = name := by
      rw [Component.ofPart?.eq_def] at read
      split at read <;> simp_all
    obtain ⟨cs, piece, rfl⟩ := List.mem_map.1 member
    rw [← same, String.toList_ofList]
    exact Line.not_mem_of_mem_splitOn piece

/-- The file name of an entry's path is the entry's name. -/
theorem fileName?_entry (text : p.text ≠ "") (named : FileTree.IsName name) :
    (p.entry name).fileName? = some name := by
  rw [fileName?, components_entry text named, List.getLast?_append_of_ne_nil _ (by simp)]
  rfl

/-- From the end of a name, everything up to its last dot, and from there on. -/
theorem reverse_append_dot (stem extension : String) (plain : '.' ∉ extension.toList) :
    let fromEnd := (stem ++ "." ++ extension).toList.reverse
    fromEnd.takeWhile (· ≠ '.') = extension.toList.reverse ∧
      fromEnd.dropWhile (· ≠ '.') = '.' :: stem.toList.reverse := by
  have parts : (stem ++ "." ++ extension).toList.reverse =
      extension.toList.reverse ++ '.' :: stem.toList.reverse := by
    simp [String.toList_append]
  have kept : ∀ c ∈ extension.toList.reverse, decide (c ≠ '.') = true := by
    intro c member
    simpa using fun same : c = '.' => plain (same ▸ List.mem_reverse.1 member)
  dsimp only
  rw [parts, List.takeWhile_append_of_pos kept, List.dropWhile_append_of_pos kept]
  simp

/-- A name is cut at its last dot, unless the dot stands in front. -/
theorem splitName?_eq_some_iff : splitName? name = some (stem, extension) ↔
    stem ≠ "" ∧ '.' ∉ extension.toList ∧ name = stem ++ "." ++ extension := by
  constructor
  · intro cut
    rw [splitName?] at cut
    split at cut
    case h_2 => cases cut
    case h_1 dot c rest ends =>
      obtain ⟨rfl, rfl⟩ := Prod.mk.inj (Option.some.inj cut)
      have isDot : dot = '.' := by
        have head := List.head?_dropWhile_not (· ≠ '.') name.toList.reverse
        rw [ends] at head
        simpa using head
      refine ⟨by simp, ?_, ?_⟩
      · rw [String.toList_ofList, List.mem_reverse]
        intro member
        simpa using List.mem_takeWhile_imp member
      · have whole := List.takeWhile_append_dropWhile (p := (· ≠ '.')) (l := name.toList.reverse)
        rw [ends, isDot] at whole
        generalize List.takeWhile _ name.toList.reverse = after at whole ⊢
        rw [← String.toList_inj, ← List.reverse_inj, ← whole]
        simp [String.toList_append]
  · rintro ⟨more, plain, rfl⟩
    obtain ⟨taken, dropped⟩ := reverse_append_dot stem extension plain
    cases backwards : stem.toList.reverse with
    | nil => simp_all
    | cons c rest =>
      rw [splitName?, taken, dropped, backwards]
      dsimp only
      rw [← backwards, List.reverse_reverse, List.reverse_reverse, String.ofList_toList,
        String.ofList_toList]

end Path

namespace Session

variable {settings : Settings} {path : Path}

/-- What a file is launched with: its path as the walk came to it, or for a suite the name that
    stands in front of the extension. -/
def IsArgument (settings : Settings) (path : Path) (argument : String) : Prop :=
  match settings.kind with
  | .test | .example => argument = path.text
  | .api => argument ≠ "" ∧ '/' ∉ argument.toList ∧
      path.fileName? = some (argument ++ "." ++ settings.extension)

/-- The argument that a session uses for a test file. -/
theorem isArgument_argument (test : settings.isTestFile path = true) :
    IsArgument settings path (argument settings.kind path) := by
  rw [IsArgument, argument.eq_def]
  cases settings.kind with
  | api =>
    have extension : path.extension? = some settings.extension := by
      simpa [Settings.isTestFile] using test
    obtain ⟨name, named, cut⟩ := Option.bind_eq_some_iff.1 extension
    obtain ⟨⟨stem, after⟩, split, same⟩ := Option.bind_eq_some_iff.1 cut
    obtain rfl := Option.some.inj same
    obtain ⟨more, -, whole⟩ := Path.splitName?_eq_some_iff.1 split
    have stem : path.stem? = some stem := by
      simp [Path.stem?, named, split]
    have noSlash := Path.noSlash_of_fileName? named
    dsimp only
    rw [stem, Option.getD_some]
    refine ⟨more, fun slash => noSlash ?_, named.trans (congrArg some whole)⟩
    rw [whole, String.toList_append, String.toList_append]
    exact List.mem_append_left _ (List.mem_append_left _ slash)
  | _ => rfl

end Session
end Conformance
