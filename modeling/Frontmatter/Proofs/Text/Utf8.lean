import Frontmatter.Text.Basic
import Mathlib.Data.List.Infix

/-! # Texts as bytes

The UTF-8 form of a text writes each character as one to four bytes. The bytes of a character tell
where it ends, so that the bytes of one text begin those of another only if its characters do: this
is `utf8_prefix_utf8_iff`. -/

namespace Frontmatter

namespace Text

variable {s t : Text}

/-- The UTF-8 bytes of a text. -/
def utf8 (s : Text) : List UInt8 :=
  s.flatMap String.utf8EncodeChar

/-- The empty text has no bytes. -/
@[simp] theorem utf8_nil : utf8 [] = [] := rfl

/-- The bytes of the first character come first. -/
theorem utf8_cons (c : Char) (s : Text) : utf8 (c :: s) = String.utf8EncodeChar c ++ utf8 s :=
  List.flatMap_cons

/-- The bytes of two texts in a row are those of the first and then those of the second. -/
@[simp] theorem utf8_append (s t : Text) : utf8 (s ++ t) = utf8 s ++ utf8 t :=
  List.flatMap_append

/-- Only the empty text has no bytes, since every character has some. -/
@[simp] theorem utf8_eq_nil_iff : utf8 s = [] ↔ s = [] := by
  cases s with
  | nil => simp
  | cons c s => simp [utf8_cons]

/-- The first character is read off the bytes, and so are the bytes that follow it. -/
theorem utf8EncodeChar_append_inj {c d : Char} {xs ys : List UInt8}
    (h : String.utf8EncodeChar c ++ xs = String.utf8EncodeChar d ++ ys) : c = d ∧ xs = ys := by
  have hdecode := congrArg (fun bytes => bytes.toByteArray.utf8DecodeChar? 0) h
  simp only [List.toByteArray_append, ByteArray.utf8DecodeChar?_utf8EncodeChar_append,
    Option.some_inj] at hdecode
  exact ⟨hdecode, List.append_cancel_left (hdecode ▸ h)⟩

/-- The bytes of a text begin those of another one exactly if the text begins the other one. -/
theorem utf8_prefix_utf8_iff : utf8 s <+: utf8 t ↔ s <+: t := by
  constructor
  · intro h
    induction s generalizing t with
    | nil => exact List.nil_prefix
    | cons c s ih =>
        obtain ⟨rest, hrest⟩ := h
        rw [utf8_cons, List.append_assoc] at hrest
        cases t with
        | nil => exact absurd (List.append_eq_nil_iff.mp hrest).1 String.utf8EncodeChar_ne_nil
        | cons d t =>
            rw [utf8_cons] at hrest
            obtain ⟨rfl, htail⟩ := utf8EncodeChar_append_inj hrest
            exact List.cons_prefix_cons.mpr ⟨rfl, ih ⟨rest, htail⟩⟩
  · rintro ⟨rest, rfl⟩
    rw [utf8_append]
    exact List.prefix_append _ _

end Text

end Frontmatter
