import Conformance.Proofs.FileNames

/-!
# Which paths are test files

`Path.lastPart?` is the last part of a path that counts. Main statement: a path is a test file
exactly if that part is a stem, a dot and the extension, which has lost the dots in front of it and
has no other dot.
-/

namespace Conformance

namespace Path

variable {p : Path} {name extension : String}

/-- The last part between slashes, apart from empty parts and single dots. -/
def lastPart? (p : Path) : Option String :=
  (p.parts.filter fun part => part ≠ "" ∧ part ≠ ".").getLast?

/-- The component that a part which counts stands for. -/
def Component.ofCounting (part : String) : Component :=
  if part = ".." then parent else .name part

theorem filterMap_ofPart? (parts : List String) :
    parts.filterMap Component.ofPart? =
      (parts.filter fun part => part ≠ "" ∧ part ≠ ".").map Component.ofCounting := by
  rw [← List.filterMap_eq_map, List.filterMap_filter]
  refine List.filterMap_congr fun part _ => ?_
  by_cases empty : part = ""
  · rw [empty]
    rfl
  by_cases current : part = "."
  · rw [current]
    rfl
  by_cases up : part = ".."
  · rw [up]
    rfl
  rw [Component.ofPart?] <;> simp [empty, current, up, Component.ofCounting]

/-- The file name is the last part that counts, unless that is a step up. -/
theorem fileName?_eq_some_iff :
    p.fileName? = some name ↔ p.lastPart? = some name ∧ name ≠ ".." := by
  have last : p.components.getLast? = (p.lastPart?.map Component.ofCounting).or
      (if p.isAbsolute then [Component.root]
        else if p.parts.head? = some "." then [.current] else []).getLast? := by
    rw [components, List.getLast?_append, filterMap_ofPart?, List.getLast?_map, lastPart?]
  rw [fileName?, last]
  cases p.lastPart? with
  | none => split_ifs <;> simp
  | some part =>
    by_cases up : part = ".."
    · rw [up]
      constructor
      · intro absent
        cases absent
      · rintro ⟨same, notUp⟩
        exact absurd (Option.some.inj same).symm notUp
    · simp only [Option.map_some, Option.some_or, Component.ofCounting, if_neg up,
        Option.some.injEq]
      exact ⟨fun same => ⟨same, same ▸ up⟩, And.left⟩

/-- The extension of a path follows the last dot of its file name, in front of which something
    stands. -/
theorem extension?_eq_some_iff : p.extension? = some extension ↔ '.' ∉ extension.toList ∧
    ∃ last stem, p.lastPart? = some last ∧ last ≠ ".." ∧ stem ≠ "" ∧
      last = stem ++ "." ++ extension := by
  constructor
  · intro found
    obtain ⟨name, named, cut⟩ := Option.bind_eq_some_iff.1 found
    obtain ⟨⟨stem, _⟩, split, same⟩ := Option.bind_eq_some_iff.1 cut
    obtain rfl := Option.some.inj same
    obtain ⟨last, notUp⟩ := fileName?_eq_some_iff.1 named
    obtain ⟨more, plain, whole⟩ := splitName?_eq_some_iff.1 split
    exact ⟨plain, name, stem, last, notUp, more, whole⟩
  · rintro ⟨plain, name, stem, last, notUp, more, whole⟩
    have named := fileName?_eq_some_iff.2 ⟨last, notUp⟩
    have split := splitName?_eq_some_iff.2 ⟨more, plain, whole⟩
    rw [extension?, named, Option.bind_eq_bind, Option.bind_some, split]
    rfl

/-- Where the last part ends in a dot and an extension, only what stands before them matters. -/
theorem extension?_of_lastPart {front : String}
    (last : p.lastPart? = some (front ++ "." ++ extension)) : p.extension? = some extension ↔
      '.' ∉ extension.toList ∧ front ++ "." ++ extension ≠ ".." ∧ front ≠ "" := by
  rw [extension?_eq_some_iff]
  refine and_congr_right fun _ => ⟨?_, fun ⟨notUp, more⟩ => ⟨_, front, last, notUp, more, rfl⟩⟩
  rintro ⟨part, stem, same, notUp, more, whole⟩
  rw [last, Option.some.injEq] at same
  have fronts : front = stem := by simpa [← String.toList_inj] using same.trans whole
  exact ⟨same ▸ notUp, fronts ▸ more⟩

end Path

namespace Settings

theorem isTestFile_extension_iff (settings : Settings) (text : String) (p : Path) :
    (settings.set (.extension text)).isTestFile p = true ↔
      p.extension? = some (String.ofList (text.toList.dropWhile (· = '.'))) :=
  beq_iff_eq

/-- Whatever text is given as the extension, and whatever dots it has in front, a path is a test
    file exactly if nothing else of that text is a dot and the last part of the path is a stem, a
    dot and the rest of the text. -/
theorem isTestFile_iff (settings : Settings) (text : String) (p : Path) :
    let extension := String.ofList (text.toList.dropWhile (· = '.'))
    let isTest := (settings.set (.extension text)).isTestFile p
    (isTest = true ↔ '.' ∉ extension.toList ∧ ∃ last stem, p.lastPart? = some last ∧
      last ≠ ".." ∧ stem ≠ "" ∧ last = stem ++ "." ++ extension) ∧
    (p.lastPart? = some ("." ++ extension) → isTest = false) ∧
    ('.' ∉ extension.toList → p.lastPart? = some ("a.b." ++ extension) → isTest = true) ∧
    (p.lastPart? = some "a." → (isTest = true ↔ extension = "")) ∧
    ('.' ∈ extension.toList → isTest = false) := by
  intro extension isTest
  have reads : isTest = true ↔ p.extension? = some extension :=
    isTestFile_extension_iff settings text p
  have test_iff := reads.trans Path.extension?_eq_some_iff
  refine ⟨test_iff, fun bare => ?_, fun plain last => ?_, fun last => ?_, fun dotted => ?_⟩
  · have last : p.lastPart? = some ("" ++ "." ++ extension) := by simpa using bare
    rw [← Bool.not_eq_true, reads, Path.extension?_of_lastPart last]
    exact fun test => test.2.2 rfl
  · have cut : p.lastPart? = some ("a.b" ++ "." ++ extension) := last
    have notUp : "a.b" ++ "." ++ extension ≠ ".." := by
      intro up
      simpa using congrArg String.toList up
    rw [reads, Path.extension?_of_lastPart cut]
    exact ⟨plain, notUp, by decide⟩
  · have cut : p.lastPart? = some ("a" ++ "." ++ "") := last
    have empty : p.extension? = some "" := by
      rw [Path.extension?_of_lastPart cut]
      decide
    rw [reads, empty, Option.some.injEq, eq_comm]
  · rw [← Bool.not_eq_true, test_iff]
    exact fun test => test.1 dotted

/-- A name with two dots in a path that does not end with it, a name that only starts with a dot, an
    extension of dots, and one with a dot inside. -/
theorem isTestFile_iff_dots :
    let under (text path : String) := (({} : Settings).set (.extension text)).isTestFile ⟨path⟩
    (⟨"test//a.b.wren/./"⟩ : Path).lastPart? = some ("a.b." ++ "wren") ∧
      under "..wren" "test//a.b.wren/./" = true ∧ under ".wren" "test/.wren" = false ∧
      under "..." "a." = true ∧ under "tar.gz" "a.tar.gz" = false := by
  intro under
  have last : (⟨"test//a.b.wren/./"⟩ : Path).lastPart? = some ("a.b." ++ "wren") := by decide
  obtain ⟨-, -, several, -, -⟩ := isTestFile_iff {} "..wren" ⟨"test//a.b.wren/./"⟩
  obtain ⟨-, bare, -, -, -⟩ := isTestFile_iff {} ".wren" ⟨"test/.wren"⟩
  obtain ⟨-, -, -, final, -⟩ := isTestFile_iff {} "..." ⟨"a."⟩
  obtain ⟨-, -, -, -, inner⟩ := isTestFile_iff {} "tar.gz" ⟨"a.tar.gz"⟩
  exact ⟨last, several (by decide) last, bare (by decide), (final (by decide)).2 (by decide),
    inner (by decide)⟩

end Settings
end Conformance
