import Conformance.Proofs.Completing
import Conformance.Proofs.Locations

/-!
# What can be read

Main statement: a path reads as a text exactly if it leads to something that holds the bytes of the
text. So nothing is read where a path leads nowhere, as through a link to what is not there, where
it leads to a directory, be it through a link, and from a file whose bytes encode no text.
-/

namespace Conformance

/-! ## Bytes of texts -/

theorem toList_eq_data_toList (bytes : ByteArray) : bytes.toList = bytes.data.toList := by
  have loop (i : Nat) (read : List UInt8) :
      ByteArray.toList.loop bytes i read = read.reverse ++ bytes.data.toList.drop i := by
    induction i, read using ByteArray.toList.loop.induct bytes with
    | case1 i read more ih =>
      have inside : i < bytes.data.toList.length := more
      have here : bytes.get! i = bytes.data.toList[i] := getElem!_pos bytes.data i more
      rw [ByteArray.toList.loop, if_pos more, ih, List.drop_eq_getElem_cons inside, here,
        List.reverse_cons, List.append_assoc, List.singleton_append]
    | case2 i read ends =>
      have past : bytes.data.toList.length ≤ i := Nat.not_lt.1 ends
      rw [ByteArray.toList.loop, if_neg ends, List.drop_of_length_le past, List.append_nil]
  exact loop 0 []

namespace Utf8

theorem read?_eq_some_iff {bytes : List UInt8} {text : String} :
    read? bytes = some text ↔ bytes = encode text := by
  rw [read?]
  constructor
  · intro read
    split_ifs at read with whole
    obtain ⟨encoded, rfl⟩ := valid_iff.1 whole
    rw [chars_encode, String.ofList_toList] at read
    rw [Option.some.inj read]
  · rintro rfl
    rw [if_pos (valid_encode text), chars_encode, String.ofList_toList]

theorem encode_eq_iff {bytes : ByteArray} {text : String} :
    bytes.toList = encode text ↔ bytes = text.toUTF8 := by
  rw [toList_eq_data_toList, encode, Array.toList_inj, ByteArray.ext_iff]

end Utf8

/-- The path that a link in the directory `p` stands for. -/
def Path.onward (p target : Path) : Path :=
  if target.isAbsolute then target else p.entry target.text

namespace Disk

variable {disk other : Disk} {path : Path} {tree : FileTree} {text : String} {number : Nat}
  {cause : Cause}

/-! ## Links -/

/-- A link leads only where its target leads from the link's directory. -/
theorem look_link {entries : List (String × FileTree)} {name : String} {target : Path}
    (found : disk.look path = .ok (.directory entries)) (named : FileTree.IsName name)
    (listed : entries.lookup name = some (.link target)) (text : target.text ≠ "")
    (noNul : Char.ofNat 0 ∉ target.text.toList)
    (short : (path.onward target).text.utf8ByteSize < FileTree.pathLimit)
    (leads : disk.look (path.entry name) = .ok tree) :
    disk.look (path.onward target) = .ok tree := by
  obtain ⟨links, trail, within, here, reached⟩ := follow_of_look found
  obtain ⟨noNulBefore, textBefore, -⟩ := look_eq_ok_iff.1 found
  obtain ⟨-, -, -, location, followed⟩ := look_eq_ok_iff.1 leads
  have plain : ¬ (name = "" ∨ name = ".") := by simp [named.nonempty, named.notCurrent]
  rw [Path.isAbsolute_entry textBefore, reached, Path.parts_name named.noSlash] at followed
  cases links with
  | zero =>
    rw [FileTree.top] at here
    simp [FileTree.follow, here, plain, named.notParent, Nat.not_lt.2 named.short, listed]
      at followed
  | succ links =>
    rw [FileTree.follow_link here plain named.notParent (Nat.not_lt.2 named.short) listed,
      List.append_nil] at followed
    rw [Path.onward] at short ⊢
    by_cases absolute : target.isAbsolute = true
    · rw [if_pos absolute] at short followed ⊢
      refine look_eq_ok_iff.2 ⟨noNul, text, short, location, ?_⟩
      rw [if_pos absolute]
      exact FileTree.follow_of_fewer (Nat.le_of_succ_le within) followed
    · rw [if_neg absolute] at short followed ⊢
      refine look_eq_ok_iff.2
        ⟨noNul_entry noNulBefore noNul, Path.entry_ne_empty text, short, location, ?_⟩
      rw [Path.isAbsolute_entry textBefore, reached]
      exact FileTree.follow_of_fewer (Nat.le_succ links) followed

/-! ## Texts of files -/

theorem readText_of_absent (absent : disk.look path = .error cause) :
    disk.readText path = .error cause := by
  rw [readText, readBytes, absent]
  rfl

theorem readText_of_refused (found : disk.look path = .ok tree)
    (refused : disk.bytesOf tree = .error cause) : disk.readText path = .error cause := by
  rw [readText, readBytes, found]
  simp only [bind, Except.bind, refused]

theorem readText_of_bytes {bytes : ByteArray} (found : disk.look path = .ok tree)
    (held : disk.bytesOf tree = .ok bytes) :
    disk.readText path = match Utf8.read? bytes.toList with
      | some text => .ok text
      | none => .error .notText := by
  rw [readText, readBytes, found]
  simp only [bind, Except.bind, held]
  rfl

/-- What a path reads as is the text whose bytes are held by what the path leads to. -/
theorem readText_eq_ok_iff : disk.readText path = .ok text ↔
    ∃ tree, disk.look path = .ok tree ∧ disk.bytesOf tree = .ok text.toUTF8 := by
  constructor
  · intro reads
    cases found : disk.look path with
    | error cause => cases (readText_of_absent found).symm.trans reads
    | ok tree =>
      cases held : disk.bytesOf tree with
      | error cause => cases (readText_of_refused found held).symm.trans reads
      | ok bytes =>
        rw [readText_of_bytes found held] at reads
        cases decoded : Utf8.read? bytes.toList with
        | none =>
          rw [decoded] at reads
          cases reads
        | some other =>
          rw [decoded] at reads
          obtain rfl := Except.ok.inj reads
          obtain rfl := Utf8.encode_eq_iff.1 (Utf8.read?_eq_some_iff.1 decoded)
          exact ⟨tree, rfl, held⟩
  · rintro ⟨tree, found, held⟩
    rw [readText_of_bytes found held, Utf8.read?_eq_some_iff.2 (Utf8.encode_eq_iff.2 rfl)]

/-- A link whose target leads nowhere reads as nothing. -/
theorem readText_of_dangling {entries : List (String × FileTree)} {name : String} {target : Path}
    (found : disk.look path = .ok (.directory entries)) (named : FileTree.IsName name)
    (listed : entries.lookup name = some (.link target)) (text : target.text ≠ "")
    (noNul : Char.ofNat 0 ∉ target.text.toList)
    (short : (path.onward target).text.utf8ByteSize < FileTree.pathLimit)
    (dangling : disk.look (path.onward target) = .error cause) :
    ∃ cause, disk.readText (path.entry name) = .error cause := by
  cases leads : disk.look (path.entry name) with
  | error cause => exact ⟨cause, readText_of_absent leads⟩
  | ok tree =>
    have onward := look_link found named listed text noNul short leads
    cases dangling.symm.trans onward

/-- A path that leads to a directory, through whatever links, reads as nothing. -/
theorem readText_of_directory (found : disk.look path = .ok tree)
    (directory : tree.isDirectory = true) : ∃ cause, disk.readText path = .error cause := by
  cases tree with
  | directory entries => exact ⟨_, readText_of_refused found rfl⟩
  | closed error told => exact ⟨_, readText_of_refused found rfl⟩
  | _ => cases directory

/-- A file whose bytes encode no text reads as nothing. -/
theorem readText_of_invalid (found : disk.look path = .ok (.file number))
    (invalid : ∀ text : String, (disk.file number).bytes ≠ text.toUTF8) :
    ∃ cause, disk.readText path = .error cause := by
  cases read : disk.readText path with
  | error cause => exact ⟨cause, rfl⟩
  | ok text =>
    obtain ⟨tree, foundToo, held⟩ := readText_eq_ok_iff.1 read
    obtain rfl := Except.ok.inj (found.symm.trans foundToo)
    rw [bytesOf] at held
    split_ifs at held
    exact absurd (Except.ok.inj held) (invalid text)

/-- A file that the user may read and that holds the bytes of a text reads as the text. -/
theorem readText_file (found : disk.look path = .ok (.file number))
    (permitted : disk.permits (disk.file number) 0o400 = true)
    (held : (disk.file number).bytes = text.toUTF8) : disk.readText path = .ok text := by
  refine readText_eq_ok_iff.2 ⟨_, found, ?_⟩
  rw [bytesOf, if_pos permitted, held]

theorem readText_long (noNul : Char.ofNat 0 ∉ path.text.toList)
    (long : FileTree.pathLimit ≤ path.text.utf8ByteSize) :
    disk.readText path = .error (.system .nameTooLong) :=
  readText_of_absent (look_of_long noNul long)

theorem bytesOf_congr (files : other.files = disk.files) (user : other.superuser = disk.superuser)
    (tree : FileTree) : other.bytesOf tree = disk.bytesOf tree := by
  cases tree with
  | file number =>
    have held : other.file number = disk.file number := by rw [file, file, files]
    have allowed : other.permits = disk.permits := by
      funext file bits
      rw [permits, permits, user]
    rw [bytesOf, bytesOf, held, allowed]
  | device device => cases device <;> rfl
  | _ => rfl

/-- What a path leads to, what the files hold and who reads them is all that matters. -/
theorem readText_congr (same : other.look path = disk.look path)
    (files : other.files = disk.files) (user : other.superuser = disk.superuser) :
    other.readText path = disk.readText path := by
  simp only [readText, readBytes, same, bytesOf_congr files user]

end Disk
end Conformance
