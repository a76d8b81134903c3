import AthabascaRecon.Foundation.InputStream
import Mathlib.Logic.Function.Basic

/-!
# Files and their names

The characters of a file are its bytes. What can be done to a file succeeds, or it fails and
leaves the file with some content, or without the file.

The extension of a path is what its last part has from its last dot on. A path whose extension
was changed has the new one (`pathExtension_changeExtension`).
-/

set_option autoImplicit false

namespace Foundation

open AthabascaRecon

/-! ## Content -/

/-- The content of each file, if it exists. -/
abbrev Files := Text → Option Text

/-- What becomes of a call that opens, writes or closes a file. -/
inductive Outcome where
  | success
  | failure (content : Option Text)
  deriving DecidableEq, Repr

/-- What becomes of a file that gets a content. -/
def Outcome.leaves : Outcome → Text → Option Text
  | .success, written => some written
  | .failure content, _ => content

/-- The characters of a file with some bytes. -/
def bytesText (bytes : List UInt8) : Text := bytes.map fun byte => Char.ofNat byte.toNat

/-- The bytes of a file. -/
def textBytes (text : Text) : List UInt8 := text.map fun c => UInt8.ofNat c.toNat

theorem toNat_charOfNat_byte (byte : UInt8) : (Char.ofNat byte.toNat).toNat = byte.toNat := by
  have small : byte.toNat < 256 := byte.toNat_lt
  have valid : byte.toNat.isValidChar := Or.inl (by omega)
  rw [Char.ofNat, dif_pos valid]
  exact UInt32.toNat_ofNatLT ..

/-- What is written byte by byte is read byte by byte. -/
@[simp]
theorem textBytes_bytesText (bytes : List UInt8) : textBytes (bytesText bytes) = bytes := by
  induction bytes with
  | nil => rfl
  | cons byte bytes ih =>
    rw [bytesText, textBytes, List.map_cons, List.map_cons, toNat_charOfNat_byte]
    exact congrArg₂ List.cons (UInt8.ofNat_toNat) ih

@[simp]
theorem bytesText_append (bytes more : List UInt8) :
    bytesText (bytes ++ more) = bytesText bytes ++ bytesText more :=
  List.map_append

/-! ## Names -/

/-- The part of a path behind its last slash. -/
def fileName (path : Text) : Text := (path.reverse.takeWhile (· ≠ '/')).reverse

/-- `boost::filesystem::extension`. The names of the two directories that are made of dots do
not have one. -/
def pathExtension (path : Text) : Text :=
  if fileName path = ['.'] ∨ fileName path = ['.', '.'] then []
  else if '.' ∈ fileName path then
    '.' :: ((fileName path).reverse.takeWhile (· ≠ '.')).reverse
  else []

/-- `boost::filesystem::change_extension`, to an extension that begins with a dot. -/
def changeExtension (path extension : Text) : Text :=
  path.take (path.length - (pathExtension path).length) ++ extension

/-- `boost::algorithm::to_lower_copy`. -/
def toLowerCopy (text : Text) : Text := text.map Char.toLower

/-- An extension: a dot, and some characters without dots and slashes. -/
structure IsExtension (extension : Text) : Prop where
  dotted : ∃ letters, extension = '.' :: letters ∧ letters ≠ [] ∧ '.' ∉ letters
  inName : '/' ∉ extension

variable {extension : Text}

theorem fileName_append (inName : '/' ∉ extension) (path : Text) :
    fileName (path ++ extension) = fileName path ++ extension := by
  have passes : ∀ c ∈ extension.reverse, (decide (c ≠ '/')) = true := by
    intro c member
    rw [decide_eq_true_eq]
    rintro rfl
    exact inName (List.mem_reverse.mp member)
  rw [fileName, fileName, List.reverse_append, List.takeWhile_append_of_pos passes,
    List.reverse_append, List.reverse_reverse]

/-- What is put behind a path is its extension then. -/
theorem pathExtension_append (isExtension : IsExtension extension) (path : Text) :
    pathExtension (path ++ extension) = extension := by
  obtain ⟨letters, rfl, some_letter, undotted⟩ := isExtension.dotted
  have passes : ∀ c ∈ letters.reverse, (decide (c ≠ '.')) = true := by
    intro c member
    rw [decide_eq_true_eq]
    rintro rfl
    exact undotted (List.mem_reverse.mp member)
  have notDots : ∀ dots : Text, (∀ c ∈ dots, c = '.') → fileName path ++ '.' :: letters ≠ dots := by
    rintro _ only rfl
    obtain ⟨c, member⟩ := List.exists_mem_of_ne_nil letters some_letter
    obtain rfl := only c (List.mem_append_right _ (List.mem_cons_of_mem _ member))
    exact undotted member
  have named : ¬ (fileName path ++ '.' :: letters = ['.'] ∨
      fileName path ++ '.' :: letters = ['.', '.']) :=
    not_or.mpr ⟨notDots _ (by simp), notDots _ (by simp)⟩
  rw [pathExtension, fileName_append isExtension.inName, if_neg named,
    if_pos (List.mem_append_right _ List.mem_cons_self), List.reverse_append, List.reverse_cons,
    List.append_assoc, List.takeWhile_append_of_pos passes, List.singleton_append,
    List.takeWhile_cons_of_neg (by decide), List.append_nil, List.reverse_reverse]

theorem pathExtension_changeExtension (isExtension : IsExtension extension) (path : Text) :
    pathExtension (changeExtension path extension) = extension :=
  pathExtension_append isExtension _

example :
    changeExtension "scan.7/volume.mhd".toList ".raw".toList = "scan.7/volume.raw".toList := by
  decide

end Foundation
