import Conformance.Proofs.Deadlines
import Conformance.Proofs.SettingChanges
import Mathlib.Data.List.Pairwise

/-!
# Writing a command line and reading it back

An `Intent` is what a command line can ask for. It comes apart into choices, each of which is an
option with its value or a flag. Main statement: in whatever order the choices are written, the
command line is read as what was intended, and the settings follow from it.
-/

namespace Conformance

namespace Arguments

/-! ## Choices -/

/-- One option with its value, or one flag. -/
inductive Choice where
  | root (path : String)
  | binary (path : String)
  | extension (text : String)
  | ignore (name : String)
  | kind (kind : Kind)
  | timeout (seconds : Nat)
  | verbose
  | noColor
  deriving DecidableEq

namespace Choice

/-- The option of a choice and its value as a text, or its flag. -/
def entry : Choice → (Opt × String) ⊕ Flag
  | root path => .inl (.root, path)
  | binary path => .inl (.binary, path)
  | extension text => .inl (.extension, text)
  | ignore name => .inl (.ignore, name)
  | kind asked => .inl (.kind, asked.name)
  | timeout seconds => .inl (.timeout, toString seconds)
  | verbose => .inr .verbose
  | noColor => .inr .noColor

/-- The word for a choice: an option has its value behind an equals sign, and a flag has none. -/
def word (choice : Choice) : String :=
  match choice.entry with
  | .inl (opt, value) => "--" ++ opt.name ++ "=" ++ value
  | .inr flag => "--" ++ flag.name

/-- The option or the flag of a choice. -/
def key (choice : Choice) : Opt ⊕ Flag := choice.entry.map Prod.fst id

/-- The name that a choice leaves out of the walk. -/
def ignored? : Choice → Option String
  | ignore name => some name
  | _ => none

/-- What a command line asks for with one more choice. -/
def apply (a : Arguments) : Choice → Arguments
  | root path => { a with root := ⟨path⟩ }
  | binary path => { a with binary := some ⟨path⟩ }
  | extension text => { a with extension := text }
  | ignore name => { a with ignore := a.ignore ++ [name] }
  | kind asked => { a with kind := asked }
  | timeout seconds => { a with timeout := some seconds }
  | verbose => { a with verbose := true }
  | noColor => { a with noColor := true }

/-- A path is not empty, and a number of seconds fits a word. -/
def Valid : Choice → Prop
  | root path | binary path => path ≠ ""
  | timeout seconds => seconds < Numeral.wordLimit
  | _ => True

/-- Two choices may stand on one command line. Only names to ignore can be given more than once. -/
def Apart (first second : Choice) : Prop := first.key = second.key → first.key = .inl .ignore

instance : Std.Symm Apart where
  symm _ _ apart same := same.trans (apart same.symm)

variable {choice first second : Choice} {a : Arguments} {choices others : List Choice}

theorem key_of_option {opt : Opt} {value : String} (option : choice.entry = .inl (opt, value)) :
    choice.key = .inl opt := by
  rw [key, option]
  rfl

theorem key_of_flag {flag : Flag} (flagged : choice.entry = .inr flag) :
    choice.key = .inr flag := by
  rw [key, flagged]
  rfl

/-! ### Reading one choice -/

theorem store_choice {opt : Opt} {value : String} (option : choice.entry = .inl (opt, value))
    (valid : choice.Valid) (a : Arguments) : store a opt value = .ok (apply a choice) := by
  cases choice with
  | verbose | noColor => cases option
  | root path | binary path =>
    cases option
    exact if_neg valid
  | extension text | ignore name =>
    cases option
    rfl
  | kind asked =>
    cases option
    cases asked <;> rfl
  | timeout seconds =>
    cases option
    rw [store, seconds?_toString valid]
    rfl

/-- An option that has not come yet is taken over with its value. -/
theorem take_choice {opt : Opt} {value : String} (option : choice.entry = .inl (opt, value))
    (valid : choice.Valid) {r : Reading} (fresh : opt ∉ r.options) :
    r.take opt (some value) = .ok { r with
      found := apply r.found choice
      options := if opt = .ignore then r.options else opt :: r.options } := by
  simp only [Reading.take, if_neg fresh, store_choice option valid]
  rfl

/-- A flag that has not come yet is taken over. -/
theorem raise_choice {flag : Flag} (flagged : choice.entry = .inr flag) {r : Reading}
    (settled : r.settle = .ok r) (fresh : flag ∉ r.flags) :
    r.raise flag true = .ok { r with found := apply r.found choice, flags := flag :: r.flags } := by
  cases choice with
  | verbose | noColor =>
    cases flagged
    simp only [Reading.raise, settled, bind, Except.bind, if_neg fresh]
    rfl
  | _ => cases flagged

theorem word_flag {r : Reading} (further : r.literal = false) (flag : Flag) :
    r.word ("--" ++ flag.name) = r.raise flag true := by
  rw [Reading.word, if_neg (by simp [further])]
  cases flag <;> rfl

/-! ### Reading some choices -/

/-- Reading has come past some choices, and the next word may be one more. -/
structure Ready (r : Reading) (seen : List Choice) : Prop where
  found : r.found = seen.foldl apply {}
  settled : r.pending = none
  further : r.literal = false
  /-- What may not come again has come, and a name to ignore may. -/
  options : ∀ opt ∈ r.options, opt ≠ .ignore ∧ .inl opt ∈ seen.map key
  flags : ∀ flag ∈ r.flags, .inr flag ∈ seen.map key

theorem map_key_append (seen : List Choice) (choice : Choice) :
    (seen ++ [choice]).map key = seen.map key ++ [choice.key] := by
  rw [List.map_append, List.map_singleton]

namespace Ready

variable {r : Reading} {seen : List Choice}

theorem start : Ready {} [] where
  found := rfl
  settled := rfl
  further := rfl
  options _ member := absurd member List.not_mem_nil
  flags _ member := absurd member List.not_mem_nil

theorem settle_eq (ready : Ready r seen) : r.settle = .ok r := by
  rw [Reading.settle, ready.settled]

theorem word_option (ready : Ready r seen) (valid : choice.Valid)
    (apart : ∀ earlier ∈ seen, earlier.Apart choice) {opt : Opt} {value : String}
    (option : choice.entry = .inl (opt, value)) :
    ∃ next, r.word choice.word = .ok next ∧ Ready next (seen ++ [choice]) := by
  have own := key_of_option option
  have fresh : opt ∉ r.options := by
    intro taken
    obtain ⟨single, given⟩ := ready.options opt taken
    obtain ⟨earlier, member, same⟩ := List.mem_map.1 given
    have again := apart earlier member (same.trans own.symm)
    exact single (Sum.inl.inj (same.symm.trans again))
  have written : choice.word.toList = '-' :: '-' :: (opt.name.toList ++ '=' :: value.toList) := by
    rw [word, option]
    simp
  have read : r.word choice.word = r.take opt (some value) := by
    rw [Reading.word_option ready.further opt written, ready.settle_eq]
    rfl
  rw [take_choice option valid fresh] at read
  refine ⟨_, read, ?_, ready.settled, ready.further, fun other member => ?_, fun flag member => ?_⟩
  · rw [List.foldl_append, ← ready.found]
    rfl
  · rw [map_key_append, own]
    by_cases many : opt = .ignore
    · rw [if_pos many] at member
      exact (ready.options other member).imp_right (List.mem_append_left _)
    · rw [if_neg many] at member
      rcases List.mem_cons.1 member with rfl | taken
      · exact ⟨many, List.mem_append_right _ List.mem_cons_self⟩
      · exact (ready.options other taken).imp_right (List.mem_append_left _)
  · rw [map_key_append]
    exact List.mem_append_left _ (ready.flags flag member)

theorem word_flagged (ready : Ready r seen) (apart : ∀ earlier ∈ seen, earlier.Apart choice)
    {flag : Flag} (flagged : choice.entry = .inr flag) :
    ∃ next, r.word choice.word = .ok next ∧ Ready next (seen ++ [choice]) := by
  have own := key_of_flag flagged
  have fresh : flag ∉ r.flags := by
    intro taken
    obtain ⟨earlier, member, same⟩ := List.mem_map.1 (ready.flags flag taken)
    cases same.symm.trans (apart earlier member (same.trans own.symm))
  have read : r.word choice.word = r.raise flag true := by
    rw [word, flagged]
    exact word_flag ready.further flag
  rw [raise_choice flagged ready.settle_eq fresh] at read
  refine ⟨_, read, ?_, ready.settled, ready.further, fun opt member => ?_, fun other member => ?_⟩
  · rw [List.foldl_append, ← ready.found]
    rfl
  · rw [map_key_append]
    exact (ready.options opt member).imp_right (List.mem_append_left _)
  · rw [map_key_append, own]
    rcases List.mem_cons.1 member with rfl | taken
    · exact List.mem_append_right _ List.mem_cons_self
    · exact List.mem_append_left _ (ready.flags other taken)

/-- One more choice is read. -/
theorem word (ready : Ready r seen) (valid : choice.Valid)
    (apart : ∀ earlier ∈ seen, earlier.Apart choice) :
    ∃ next, r.word choice.word = .ok next ∧ Ready next (seen ++ [choice]) := by
  cases given : choice.entry with
  | inl option => exact ready.word_option valid apart given
  | inr flag => exact ready.word_flagged apart given

/-- Any more choices are read, one by one. -/
theorem words (ready : Ready r seen) (valid : ∀ choice ∈ choices, choice.Valid)
    (apart : (seen ++ choices).Pairwise Apart) :
    ∃ next, (choices.map Choice.word).foldlM Reading.word r = .ok next ∧
      Ready next (seen ++ choices) := by
  induction choices generalizing r seen with
  | nil => exact ⟨r, rfl, by simpa using ready⟩
  | cons choice choices ih =>
    obtain ⟨here, valid⟩ := List.forall_mem_cons.1 valid
    have before : ∀ earlier ∈ seen, earlier.Apart choice := fun earlier member =>
      (List.pairwise_append.1 apart).2.2 earlier member choice List.mem_cons_self
    obtain ⟨next, read, ready⟩ := ready.word here before
    rw [List.append_cons] at apart
    obtain ⟨last, rest, done⟩ := ih ready valid apart
    refine ⟨last, ?_, by simpa using done⟩
    rw [List.map_cons, List.foldlM_cons, read]
    exact rest

end Ready

/-! ### What choices come to -/

theorem apply_with_ignore (a : Arguments) (names : List String) (other : choice.ignored? = none) :
    apply { a with ignore := names } choice = { apply a choice with ignore := names } := by
  cases choice with
  | ignore name => cases other
  | _ => rfl

/-- The names to ignore are those that are chosen, in this order, and the other choices make up the
    rest. -/
theorem foldl_apply (a : Arguments) (choices : List Choice) : choices.foldl apply a =
    { (choices.filter (·.ignored? = none)).foldl apply a with
      ignore := a.ignore ++ choices.filterMap ignored? } := by
  induction choices using List.reverseRecOn with
  | nil => simp
  | append_singleton choices choice ih =>
    rw [List.foldl_append, ih, List.filter_append, List.foldl_append, List.filterMap_append]
    cases asked : choice.ignored? with
    | none => simp [asked, apply_with_ignore]
    | some name =>
      obtain rfl : choice = .ignore name := by
        cases choice with
        | ignore other => rw [Option.some.inj asked]
        | _ => cases asked
      simp [ignored?, apply]

theorem apply_comm (a : Arguments) (differ : first.key ≠ second.key) :
    apply (apply a first) second = apply (apply a second) first := by
  cases first <;> cases second <;> first | rfl | exact absurd rfl differ

/-- The order of choices makes no difference, except for that of the names to ignore. -/
theorem foldl_apply_perm (a : Arguments) (reordered : choices.Perm others)
    (listed : choices.filterMap ignored? = others.filterMap ignored?)
    (apart : choices.Pairwise Apart) : choices.foldl apply a = others.foldl apply a := by
  rw [foldl_apply a choices, foldl_apply a others, listed]
  have same : (choices.filter (·.ignored? = none)).foldl apply a =
      (others.filter (·.ignored? = none)).foldl apply a := by
    refine (reordered.filter _).foldl_eq' (fun first early second late a => ?_) a
    rw [List.mem_filter] at early late
    by_cases once : first = second
    · rw [once]
    · refine apply_comm a fun shared => ?_
      -- Two choices for one option are for a name to ignore.
      have name := apart.forall early.1 late.1 once shared
      cases first with
      | ignore name => simp [ignored?] at early
      | _ => cases name
  rw [same]

end Choice

/-! ## Intents -/

/-- What a command line is to ask for. What is left out is not written. -/
structure Intent where
  root : Option String := none
  binary : Option String := none
  extension : Option String := none
  ignore : List String := []
  kind : Option Kind := none
  timeout : Option Nat := none
  verbose : Bool := false
  noColor : Bool := false
  selector : Option String := none
  root_nonempty : root ≠ some "" := by simp
  binary_nonempty : binary ≠ some "" := by simp
  timeout_fits : ∀ seconds ∈ timeout, seconds < Numeral.wordLimit := by simp [Numeral.wordLimit]

namespace Intent

open Arguments.Choice

/-- The choices for one option or one flag. -/
def under (intent : Intent) : Opt ⊕ Flag → List Choice
  | .inl .root => intent.root.toList.map .root
  | .inl .binary => intent.binary.toList.map .binary
  | .inl .extension => intent.extension.toList.map .extension
  | .inl .ignore => intent.ignore.map .ignore
  | .inl .kind => intent.kind.toList.map .kind
  | .inl .timeout => intent.timeout.toList.map .timeout
  | .inr .verbose => if intent.verbose then [.verbose] else []
  | .inr .noColor => if intent.noColor then [.noColor] else []
  | .inr _ => []

/-- The options and flags, each of them once. -/
def keys : List (Opt ⊕ Flag) := Opt.all.map .inl ++ Flag.all.map .inr

/-- All choices, in one of the orders in which they can be written. -/
def toList (intent : Intent) : List Choice := keys.flatMap intent.under

/-- The words of the selector, which comes last and behind two dashes. -/
def selectorWords (intent : Intent) : List String :=
  intent.selector.elim [] fun text => ["--", text]

/-- What is to be read, with the default for each thing that is left out. -/
def arguments (intent : Intent) : Arguments where
  selector := intent.selector
  root := ⟨intent.root.getD "test"⟩
  binary := intent.binary.map Path.mk
  extension := intent.extension.getD "wren"
  ignore := intent.ignore
  kind := intent.kind.getD .test
  timeout := intent.timeout
  verbose := intent.verbose
  noColor := intent.noColor

variable {intent : Intent} {key : Opt ⊕ Flag} {choice : Choice}

theorem key_of_mem_under (member : choice ∈ intent.under key) : choice.key = key := by
  cases key with
  | inl opt =>
    cases opt <;>
    · obtain ⟨_, -, rfl⟩ := List.mem_map.1 member
      rfl
  | inr flag =>
    cases flag with
    | verbose | noColor =>
      obtain rfl := List.mem_singleton.1 (List.mem_ite_nil_right.1 member).2
      rfl
    | help | version => cases member

theorem valid_of_mem_under (member : choice ∈ intent.under key) : choice.Valid := by
  cases key with
  | inl opt =>
    cases opt with
    | root =>
      obtain ⟨path, given, rfl⟩ := List.mem_map.1 member
      exact fun empty => intent.root_nonempty (empty ▸ Option.mem_toList.1 given)
    | binary =>
      obtain ⟨path, given, rfl⟩ := List.mem_map.1 member
      exact fun empty => intent.binary_nonempty (empty ▸ Option.mem_toList.1 given)
    | timeout =>
      obtain ⟨seconds, given, rfl⟩ := List.mem_map.1 member
      exact intent.timeout_fits seconds (Option.mem_toList.1 given)
    | _ =>
      obtain ⟨_, -, rfl⟩ := List.mem_map.1 member
      trivial
  | inr flag =>
    have own := key_of_mem_under member
    cases choice with
    | verbose | noColor => trivial
    | _ => cases own

theorem valid (intent : Intent) : ∀ choice ∈ intent.toList, choice.Valid := by
  intro choice member
  obtain ⟨key, -, asked⟩ := List.mem_flatMap.1 member
  exact valid_of_mem_under asked

theorem apart_under (intent : Intent) (key : Opt ⊕ Flag) : (intent.under key).Pairwise Apart := by
  have single {α : Type} (given : Option α) (ask : α → Choice) :
      (given.toList.map ask).Pairwise Apart := by
    cases given <;> simp
  cases key with
  | inl opt =>
    cases opt with
    | ignore => exact List.pairwise_map.2 (List.pairwise_of_forall fun _ _ _ => rfl)
    | _ => exact single _ _
  | inr flag =>
    cases flag with
    | verbose | noColor =>
      rw [under]
      split_ifs <;> simp
    | help | version => exact .nil

theorem apart (intent : Intent) : intent.toList.Pairwise Apart := by
  have different : keys.Pairwise (· ≠ ·) := by decide
  refine List.pairwise_flatMap.2 ⟨fun key _ => intent.apart_under key, ?_⟩
  refine different.imp fun differ first early second late shared => ?_
  rw [key_of_mem_under early, key_of_mem_under late] at shared
  exact absurd shared differ

theorem foldl_ignore (names : List String) (a : Arguments) :
    (names.map Choice.ignore).foldl apply a = { a with ignore := a.ignore ++ names } := by
  rw [foldl_apply]
  simp [List.filter_map, List.filterMap_map, Function.comp_def, ignored?]

/-- In that order, the choices come to what is to be read, apart from the selector. -/
theorem foldl_toList (intent : Intent) :
    intent.toList.foldl apply {} = { intent.arguments with selector := none } := by
  have root (a : Arguments) : (intent.under (.inl .root)).foldl apply a =
      { a with root := ⟨intent.root.getD a.root.text⟩ } := by
    rw [under]
    cases intent.root <;> rfl
  have binary (a : Arguments) : (intent.under (.inl .binary)).foldl apply a =
      { a with binary := (intent.binary.map Path.mk).or a.binary } := by
    rw [under]
    cases intent.binary <;> rfl
  have extension (a : Arguments) : (intent.under (.inl .extension)).foldl apply a =
      { a with extension := intent.extension.getD a.extension } := by
    rw [under]
    cases intent.extension <;> rfl
  have kind (a : Arguments) : (intent.under (.inl .kind)).foldl apply a =
      { a with kind := intent.kind.getD a.kind } := by
    rw [under]
    cases intent.kind <;> rfl
  have timeout (a : Arguments) : (intent.under (.inl .timeout)).foldl apply a =
      { a with timeout := intent.timeout.or a.timeout } := by
    rw [under]
    cases intent.timeout <;> rfl
  have verbose (a : Arguments) : (intent.under (.inr .verbose)).foldl apply a =
      { a with verbose := intent.verbose || a.verbose } := by
    rw [under]
    cases intent.verbose <;> rfl
  have noColor (a : Arguments) : (intent.under (.inr .noColor)).foldl apply a =
      { a with noColor := intent.noColor || a.noColor } := by
    rw [under]
    cases intent.noColor <;> rfl
  have ignore (a : Arguments) : (intent.under (.inl .ignore)).foldl apply a =
      { a with ignore := a.ignore ++ intent.ignore } := foldl_ignore intent.ignore a
  have every : intent.toList = intent.under (.inl .root) ++ intent.under (.inl .binary) ++
      intent.under (.inl .extension) ++ intent.under (.inl .ignore) ++
      intent.under (.inl .kind) ++ intent.under (.inl .timeout) ++
      intent.under (.inr .verbose) ++ intent.under (.inr .noColor) := by
    simp [toList, keys, Opt.all, Flag.all, under]
  simp only [every, List.foldl_append, root, binary, extension, ignore, kind, timeout, verbose,
    noColor, Option.or_none, Bool.or_false, List.nil_append]
  rfl

theorem ignored_toList (intent : Intent) : intent.toList.filterMap ignored? = intent.ignore := by
  have names := congrArg Arguments.ignore (foldl_apply {} intent.toList)
  rw [foldl_toList] at names
  exact names.symm

/-- The words of the selector are read after those of any choices. -/
theorem read_selectorWords (intent : Intent) {r : Reading} {seen : List Choice}
    (ready : Ready r seen) (fresh : r.found.selector = none) :
    ∃ last, intent.selectorWords.foldlM Reading.word r = .ok last ∧ last.settle = .ok last ∧
      last.found = { r.found with selector := intent.selector } := by
  rw [selectorWords]
  cases intent.selector with
  | none =>
    refine ⟨r, rfl, ready.settle_eq, ?_⟩
    rw [← fresh]
  | some text =>
    let dashed : Reading := { r with literal := true }
    let last : Reading := { dashed with found := { r.found with selector := some text } }
    have dashes : r.word "--" = .ok dashed := by
      rw [Reading.word, if_neg (by simp [ready.further])]
      rfl
    have settled : dashed.settle = .ok dashed := by
      rw [Reading.settle, ready.settled]
    have taken : dashed.word text = .ok last := by
      rw [Reading.word, if_pos rfl, Reading.select, settled]
      simp only [dashed, fresh]
      rfl
    refine ⟨last, ?_, ?_, rfl⟩
    · rw [Option.elim_some, List.foldlM_cons, dashes]
      change (dashed.word text >>= fun r => List.foldlM Reading.word r []) = _
      rw [taken]
      rfl
    · rw [Reading.settle, ready.settled]

/-- In whatever order the choices are written, as long as the names to ignore keep theirs, the words
    are read as what is to be read. -/
theorem read_words (intent : Intent) {choices : List Choice}
    (reordered : choices.Perm intent.toList) (listed : choices.filterMap ignored? = intent.ignore) :
    read (choices.map Choice.word ++ intent.selectorWords) = .ok intent.arguments := by
  have valid : ∀ choice ∈ choices, choice.Valid := fun choice member =>
    intent.valid choice (reordered.subset member)
  have apart : choices.Pairwise Apart :=
    (reordered.pairwise_iff fun {first second} => Std.Symm.symm first second).2 intent.apart
  obtain ⟨r, words, ready⟩ := Ready.start.words valid (by simpa using apart)
  have found : r.found = { intent.arguments with selector := none } := by
    rw [ready.found, List.nil_append,
      foldl_apply_perm {} reordered (listed.trans intent.ignored_toList.symm) apart, foldl_toList]
  obtain ⟨last, selector, settled, asked⟩ := intent.read_selectorWords ready (by rw [found])
  rw [read, List.foldlM_append, words]
  change (intent.selectorWords.foldlM Reading.word r >>= fun r => _) = _
  rw [selector]
  change (last.settle >>= fun r => _) = _
  rw [settled]
  change Except.ok last.found = _
  rw [asked, found]
  rfl

theorem findBinary_eq (given environment : Option String) : findBinary given environment =
    ⟨(given <|> environment.filter (· ≠ "")).getD "bin/wren"⟩ := by
  rw [findBinary.eq_def]
  cases given with
  | some path => rfl
  | none =>
    cases environment with
    | none => rfl
    | some path => by_cases empty : path = "" <;> simp [empty, Option.filter]

/-- The settings that follow, with those from the surroundings. -/
theorem settings_arguments (intent : Intent) (environment : Environment) :
    intent.arguments.settings environment = {
      root := ⟨intent.root.getD "test"⟩
      binary := ⟨(intent.binary <|> environment.binary.filter (· ≠ "")).getD "bin/wren"⟩
      extension := String.ofList ((intent.extension.getD "wren").toList.dropWhile (· = '.'))
      ignored := "benchmark" :: (intent.ignore.filter (· ≠ "benchmark")).eraseDups
      kind := intent.kind.getD .test
      selector := intent.selector
      timeout := intent.timeout.map fun seconds => { secs := seconds, nanos := 0 }
      verbose := intent.verbose
      color := !intent.noColor && !environment.noColor && environment.terminal } := by
  have ignored : intent.ignore.foldl addName ["benchmark"] =
      "benchmark" :: (intent.ignore.filter (· ≠ "benchmark")).eraseDups := by
    simp [foldl_addName]
  have binary : (intent.binary.map Path.mk).map Path.text = intent.binary := by
    cases intent.binary <;> rfl
  rw [← ignored, ← findBinary_eq, ← binary]
  rfl

/-- A command line says what was intended in whatever order its choices are written, as long as the
    names to ignore keep theirs. The settings are those that were chosen, with the default for each
    that was left out. The names to ignore come after the one that is always ignored, each of them
    once and where it first comes. -/
theorem read_choices (intent : Intent) {choices : List Choice}
    (reordered : choices.Perm intent.toList) (listed : choices.filterMap ignored? = intent.ignore)
    (environment : Environment) :
    let arguments : Arguments := {
      selector := intent.selector
      root := ⟨intent.root.getD "test"⟩
      binary := intent.binary.map Path.mk
      extension := intent.extension.getD "wren"
      ignore := intent.ignore
      kind := intent.kind.getD .test
      timeout := intent.timeout
      verbose := intent.verbose
      noColor := intent.noColor }
    read (choices.map Choice.word ++ intent.selectorWords) = .ok arguments ∧
    arguments.settings environment = {
      root := ⟨intent.root.getD "test"⟩
      binary := ⟨(intent.binary <|> environment.binary.filter (· ≠ "")).getD "bin/wren"⟩
      extension := String.ofList ((intent.extension.getD "wren").toList.dropWhile (· = '.'))
      ignored := "benchmark" :: (intent.ignore.filter (· ≠ "benchmark")).eraseDups
      kind := intent.kind.getD .test
      selector := intent.selector
      timeout := intent.timeout.map fun seconds => { secs := seconds, nanos := 0 }
      verbose := intent.verbose
      color := !intent.noColor && !environment.noColor && environment.terminal } :=
  ⟨intent.read_words reordered listed, intent.settings_arguments environment⟩

/-- Values that look like options or hold an equals sign, and names to ignore that come again. -/
theorem read_choices_misleading :
    let intent : Intent := {
      root := some "--ext=x", extension := some "..lox", kind := some .api, timeout := some 5,
      ignore := ["a=b", "benchmark", "-", "a=b"], verbose := true, selector := some "--root=y" }
    let choices : List Choice := [
      .ignore "a=b", .timeout 5, .extension "..lox", .ignore "benchmark", .verbose,
      .root "--ext=x", .ignore "-", .kind .api, .ignore "a=b"]
    let arguments : Arguments := {
      selector := some "--root=y", root := ⟨"--ext=x"⟩, extension := "..lox",
      ignore := ["a=b", "benchmark", "-", "a=b"], kind := .api, timeout := some 5, verbose := true }
    choices.Perm intent.toList ∧ choices.filterMap ignored? = intent.ignore ∧
    read ["--ignore=a=b", "--timeout=5", "--ext=..lox", "--ignore=benchmark", "--verbose",
      "--root=--ext=x", "--ignore=-", "--kind=api", "--ignore=a=b", "--", "--root=y"] =
        .ok arguments ∧
    arguments.settings { binary := some "wren" } = {
      root := ⟨"--ext=x"⟩, binary := ⟨"wren"⟩, extension := "lox",
      ignored := ["benchmark", "a=b", "-"], kind := .api, selector := some "--root=y",
      timeout := some ⟨5, 0⟩, verbose := true } := by
  intro intent choices arguments
  have reordered : choices.Perm intent.toList := by decide
  have listed : choices.filterMap ignored? = intent.ignore := by decide
  obtain ⟨words, settings⟩ := read_choices intent reordered listed { binary := some "wren" }
  exact ⟨reordered, listed, words, settings.trans (by decide)⟩

end Intent

end Arguments
end Conformance
