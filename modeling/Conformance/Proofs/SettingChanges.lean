import Conformance.Settings
import Mathlib.Data.List.Induction

/-!
# Changes of settings

Each change is about one field of the settings and leaves the others alone. A field has what the
last change about it says, except for the ignored names, which only grow. Main statement: what any
changes make of the default settings, and which changes come to the same.
-/

namespace Conformance

/-! ## Ignored names -/

/-- Names are added in the order in which they first come. -/
theorem foldl_addName (names seen : List String) :
    names.foldl addName seen = seen ++ (names.filter (· ∉ seen)).eraseDups := by
  induction names generalizing seen with
  | nil => simp
  | cons name names ih =>
    rw [List.foldl_cons, ih, addName]
    by_cases known : name ∈ seen
    · rw [if_pos known, List.filter_cons_of_neg (by simpa using known)]
    · have further : names.filter (· ∉ seen ++ [name]) =
          (names.filter (· ∉ seen)).filter fun other => !other == name := by
        rw [List.filter_filter]
        refine List.filter_congr fun other _ => ?_
        by_cases same : other = name <;> simp [same]
      rw [if_neg known, List.filter_cons_of_pos (by simpa using known), List.eraseDups_cons,
        further, List.append_assoc, List.singleton_append]

theorem foldl_addName_nil (names : List String) : names.foldl addName [] = names.eraseDups := by
  rw [foldl_addName, List.nil_append, List.filter_eq_self.2 fun name _ => by simp]

section

variable {names seen : List String} {name : String}

theorem prefix_foldl_addName : seen <+: names.foldl addName seen := by
  rw [foldl_addName]
  exact List.prefix_append _ _

theorem mem_foldl_addName : name ∈ names.foldl addName seen ↔ name ∈ seen ∨ name ∈ names := by
  rw [foldl_addName, List.mem_append, List.mem_eraseDups, List.mem_filter, decide_eq_true_iff]
  by_cases known : name ∈ seen <;> simp [known]

theorem foldl_addName_of_subset (known : names ⊆ seen) : names.foldl addName seen = seen := by
  have nothing : names.filter (· ∉ seen) = [] := by
    simpa [List.filter_eq_nil_iff] using fun name member => known member
  rw [foldl_addName, nothing, List.eraseDups_nil, List.append_nil]

theorem nodup_addName (distinct : seen.Nodup) (name : String) : (addName seen name).Nodup := by
  rw [addName]
  split
  · exact distinct
  · next new =>
    exact (List.perm_append_singleton name seen).nodup_iff.2 (List.nodup_cons.2 ⟨new, distinct⟩)

theorem nodup_foldl_addName (distinct : seen.Nodup) : (names.foldl addName seen).Nodup :=
  List.foldlRecOn names addName distinct fun _ distinct name _ => nodup_addName distinct name

end

/-! ## Fields -/

namespace Setting

/-- The fields of settings. -/
inductive Field where
  | root | binary | extension | ignored | kind | selector | timeout | verbose | color
  deriving DecidableEq

/-- What can stand in a field. -/
abbrev Field.Value : Field → Type
  | root | binary => Path
  | extension => String
  | ignored => List String
  | kind => Kind
  | selector => Option String
  | timeout => Option Duration
  | verbose | color => Bool

/-- The field that a change is about. -/
def field : Setting → Field
  | root _ => .root
  | binary _ => .binary
  | extension _ => .extension
  | ignored _ => .ignored
  | kind _ => .kind
  | selector _ => .selector
  | timeout _ => .timeout
  | verbose _ => .verbose
  | color _ => .color

/-- What a change sets a field to. An extension is taken without the dots in front of it. The
    ignored names are never set, only added to. -/
def value? : Setting → (field : Field) → Option field.Value
  | root path, .root => some path
  | binary path, .binary => some path
  | extension text, .extension => some (.ofList (text.toList.dropWhile (· = '.')))
  | kind asked, .kind => some asked
  | selector text, .selector => some text
  | timeout limit, .timeout => some limit
  | verbose on, .verbose => some on
  | color on, .color => some on
  | _, _ => none

/-- The names that a change adds to the ignored ones. -/
def names : Setting → List String
  | ignored names => names
  | _ => []

end Setting

namespace Settings

open Setting (Field)

variable {s t : Settings} {change first second : Setting} {field : Field}

/-- What stands in a field. -/
def value (s : Settings) : (field : Field) → field.Value
  | .root => s.root
  | .binary => s.binary
  | .extension => s.extension
  | .ignored => s.ignored
  | .kind => s.kind
  | .selector => s.selector
  | .timeout => s.timeout
  | .verbose => s.verbose
  | .color => s.color

/-- The fields are all there is to settings. -/
theorem ext_value (same : ∀ field, s.value field = t.value field) : s = t := by
  cases s
  cases t
  rw [Settings.mk.injEq]
  exact ⟨same .root, same .binary, same .extension, same .ignored, same .kind, same .selector,
    same .timeout, same .verbose, same .color⟩

/-! ## One change -/

theorem value_set (s : Settings) (change : Setting) (other : field ≠ .ignored) :
    (s.set change).value field = (change.value? field).getD (s.value field) := by
  cases field with
  | ignored => exact absurd rfl other
  | _ => cases change <;> rfl

theorem ignored_set (s : Settings) (change : Setting) :
    (s.set change).ignored = change.names.foldl addName s.ignored := by
  cases change <;> rfl

/-- A change leaves the fields alone that it is not about. -/
theorem value_set_of_ne (s : Settings) (apart : change.field ≠ field) :
    (s.set change).value field = s.value field := by
  cases change <;> cases field <;> first | rfl | exact absurd rfl apart

/-- What a change makes of a field depends on nothing but what the field had. -/
theorem value_set_congr (same : s.value field = t.value field) :
    (s.set change).value field = (t.set change).value field := by
  by_cases names : field = .ignored
  · -- Only the ignored names are made from what was there before.
    subst names
    calc (s.set change).ignored = change.names.foldl addName s.ignored := ignored_set s change
      _ = change.names.foldl addName t.ignored := congrArg (change.names.foldl addName) same
      _ = (t.set change).ignored := (ignored_set t change).symm
  · rw [value_set s change names, value_set t change names, same]

/-- Changes of two fields do not disturb each other. -/
theorem set_comm (s : Settings) (apart : first.field ≠ second.field) :
    (s.set first).set second = (s.set second).set first := by
  refine ext_value fun field => ?_
  -- One of the two changes is not about this field, and may as well be left out or made earlier.
  by_cases here : first.field = field
  · have elsewhere : second.field ≠ field := fun there => apart (here.trans there.symm)
    calc ((s.set first).set second).value field = (s.set first).value field :=
          value_set_of_ne _ elsewhere
      _ = ((s.set second).set first).value field :=
          value_set_congr (value_set_of_ne s elsewhere).symm
  · calc ((s.set first).set second).value field = (s.set second).value field :=
          value_set_congr (value_set_of_ne s here)
      _ = ((s.set second).set first).value field := (value_set_of_ne _ here).symm

theorem set_ignored_append (s : Settings) (names more : List String) :
    s.set (.ignored (names ++ more)) = (s.set (.ignored names)).set (.ignored more) := by
  simp only [set, List.foldl_append]

/-- Names that are ignored already change nothing. -/
theorem set_ignored_of_subset {names : List String} (known : names ⊆ s.ignored) :
    s.set (.ignored names) = s := by
  rw [set, foldl_addName_of_subset known]

/-! ## Some changes -/

theorem setAll_cons (s : Settings) (change : Setting) (changes : List Setting) :
    s.setAll (change :: changes) = (s.set change).setAll changes := rfl

theorem setAll_append (s : Settings) (earlier later : List Setting) :
    s.setAll (earlier ++ later) = (s.setAll earlier).setAll later :=
  List.foldl_append

/-- The last change about a field is the one that counts. -/
theorem value_setAll (s : Settings) (changes : List Setting) (other : field ≠ .ignored) :
    (s.setAll changes).value field =
      (changes.filterMap (·.value? field)).getLast?.getD (s.value field) := by
  induction changes using List.reverseRecOn with
  | nil => rfl
  | append_singleton changes change ih =>
    have last : (s.setAll (changes ++ [change])).value field =
        (change.value? field).getD ((s.setAll changes).value field) := by
      rw [setAll_append]
      exact value_set _ change other
    rw [last, ih, List.filterMap_append, List.getLast?_append]
    cases said : change.value? field with
    | none => simp [said]
    | some value => simp [said]

theorem ignored_setAll (s : Settings) (changes : List Setting) :
    (s.setAll changes).ignored = (changes.flatMap Setting.names).foldl addName s.ignored := by
  induction changes generalizing s with
  | nil => rfl
  | cons change changes ih =>
    rw [setAll_cons, ih, ignored_set, List.flatMap_cons, List.foldl_append]

/-- What is ignored stays ignored. -/
theorem ignored_prefix_setAll (s : Settings) (changes : List Setting) :
    s.ignored <+: (s.setAll changes).ignored := by
  rw [ignored_setAll]
  exact prefix_foldl_addName

theorem nodup_ignored_setAll (distinct : s.ignored.Nodup) (changes : List Setting) :
    (s.setAll changes).ignored.Nodup := by
  rw [ignored_setAll]
  exact nodup_foldl_addName distinct

theorem setAll_map_ignored (s : Settings) (parts : List (List String)) :
    s.setAll (parts.map .ignored) = s.set (.ignored parts.flatten) := by
  induction parts generalizing s with
  | nil => rfl
  | cons part parts ih =>
    rw [List.map_cons, setAll_cons, ih, List.flatten_cons, set_ignored_append]

/-- Names that have been added once are not added again. -/
theorem setAll_ignored_again (s : Settings) (names : List String) (between : List Setting) :
    s.setAll (.ignored names :: between ++ [.ignored names]) =
      s.setAll (.ignored names :: between) := by
  have added : names ⊆ (s.set (.ignored names)).ignored := fun name member =>
    mem_foldl_addName.2 (.inr member)
  have kept := (ignored_prefix_setAll (s.set (.ignored names)) between).subset
  rw [setAll_append]
  exact set_ignored_of_subset (List.Subset.trans added kept)

/-- Changes that always come to the same can stand for each other. -/
theorem setAll_congr {changes others : List Setting}
    (same : ∀ s : Settings, s.setAll changes = s.setAll others) (s : Settings)
    (earlier later : List Setting) :
    s.setAll (earlier ++ changes ++ later) = s.setAll (earlier ++ others ++ later) := by
  rw [setAll_append, setAll_append, setAll_append, setAll_append, same]

/-! ## Changes of the default settings -/

theorem ignored_default (changes : List Setting) : (({} : Settings).setAll changes).ignored =
    ("benchmark" :: changes.flatMap Setting.names).eraseDups := by
  rw [ignored_setAll, ← foldl_addName_nil]
  rfl

theorem head?_ignored_default (changes : List Setting) :
    (({} : Settings).setAll changes).ignored.head? = some "benchmark" := by
  obtain ⟨more, whole⟩ := ignored_prefix_setAll {} changes
  rw [← whole]
  rfl

/-- The name that is always ignored comes first, then each name that is added, once and where it
    first comes. It makes no difference whether names are added together or one after the other, and
    adding them again does nothing. Any other field has what the last change about it says, or its
    default, and changes of two fields can be made in either order. -/
theorem setAll_default (changes : List Setting) :
    let settings := ({} : Settings).setAll changes
    settings.ignored.head? = some "benchmark" ∧ settings.ignored.Nodup ∧
    settings.ignored = ("benchmark" :: changes.flatMap Setting.names).eraseDups ∧
    (∀ earlier (parts : List (List String)) later,
      changes = earlier ++ [.ignored parts.flatten] ++ later →
      settings = ({} : Settings).setAll (earlier ++ parts.map .ignored ++ later)) ∧
    (∀ earlier names between later,
      changes = earlier ++ (.ignored names :: between ++ [.ignored names]) ++ later →
      settings = ({} : Settings).setAll (earlier ++ (.ignored names :: between) ++ later)) ∧
    (∀ field ≠ .ignored, settings.value field =
      (changes.filterMap (·.value? field)).getLast?.getD (({} : Settings).value field)) ∧
    (∀ earlier first second later, changes = earlier ++ [first, second] ++ later →
      first.field ≠ second.field →
      settings = ({} : Settings).setAll (earlier ++ [second, first] ++ later)) := by
  have distinct : ({} : Settings).ignored.Nodup := by decide
  refine ⟨head?_ignored_default changes, nodup_ignored_setAll distinct changes,
    ignored_default changes, ?_, ?_, fun field other => value_setAll {} changes other, ?_⟩
  · rintro earlier parts later rfl
    have together (s : Settings) :
        s.setAll [.ignored parts.flatten] = s.setAll (parts.map .ignored) :=
      (setAll_map_ignored s parts).symm
    exact setAll_congr together {} earlier later
  · rintro earlier names between later rfl
    have once (s : Settings) := setAll_ignored_again s names between
    exact setAll_congr once {} earlier later
  · rintro earlier first second later rfl apart
    have swapped (s : Settings) : s.setAll [first, second] = s.setAll [second, first] :=
      set_comm s apart
    exact setAll_congr swapped {} earlier later

/-- Names that come again within one change and in a later one, dots in front of an extension, and a
    selector that is taken back. -/
theorem setAll_default_repeated :
    let changes : List Setting := [.ignored ["a", "benchmark", "a", "b"], .extension "..lox",
      .selector (some "x"), .ignored ["a", "benchmark", "a", "b"], .selector none]
    let settings := ({} : Settings).setAll changes
    settings.ignored = ["benchmark", "a", "b"] ∧
    settings = ({} : Settings).setAll [.ignored ["a", "benchmark"], .ignored ["a", "b"],
      .extension "..lox", .selector (some "x"), .ignored ["a", "benchmark", "a", "b"],
      .selector none] ∧
    settings = ({} : Settings).setAll [.ignored ["a", "benchmark", "a", "b"], .extension "..lox",
      .selector (some "x"), .selector none] ∧
    Setting.Field.extension ≠ .ignored ∧ settings.extension = "lox" ∧
    Setting.Field.selector ≠ .ignored ∧ settings.selector = none ∧
    Setting.Field.root ≠ .ignored ∧ settings.root = ⟨"test"⟩ ∧
    (Setting.extension "..lox").field ≠ (Setting.selector (some "x")).field ∧
    settings = ({} : Settings).setAll [.ignored ["a", "benchmark", "a", "b"], .selector (some "x"),
      .extension "..lox", .ignored ["a", "benchmark", "a", "b"], .selector none] := by
  intro changes settings
  obtain ⟨-, -, ignored, split, again, value, swap⟩ := setAll_default changes
  have extension : settings.extension = "lox" := value .extension (by decide)
  have selector : settings.selector = none := value .selector (by decide)
  have root : settings.root = ⟨"test"⟩ := value .root (by decide)
  exact ⟨ignored.trans (by decide), split [] [["a", "benchmark"], ["a", "b"]] _ rfl,
    again [] _ [.extension "..lox", .selector (some "x")] _ rfl, by decide, extension, by decide,
    selector, by decide, root, by decide, swap [_] _ _ _ rfl (by decide)⟩

end Settings
end Conformance
