/-!
# Texts

A text is a list of characters. Offsets and lengths that leave the library are counted in bytes of
the UTF-8 form, so that form and its length stand here, together with the cuts at both ends that
the other modules share.
-/

namespace ProcedureAtlas

set_option autoImplicit false

abbrev Text := List Char

abbrev Bytes := List UInt8

namespace Text

def utf8 (text : Text) : Bytes :=
  text.flatMap String.utf8EncodeChar

def byteLength (text : Text) : Nat :=
  text.foldl (fun total character => total + character.utf8Size) 0

theorem byteLength_nil : byteLength [] = 0 := rfl

private theorem foldl_utf8Size (text : Text) (total : Nat) :
    text.foldl (fun total character => total + character.utf8Size) total =
      total + byteLength text := by
  induction text generalizing total with
  | nil => rfl
  | cons character rest ih =>
      rw [byteLength, List.foldl_cons, List.foldl_cons, ih, ih]
      omega

theorem byteLength_cons (character : Char) (text : Text) :
    byteLength (character :: text) = character.utf8Size + byteLength text := by
  rw [byteLength, List.foldl_cons, foldl_utf8Size, Nat.zero_add]

theorem byteLength_append (left right : Text) :
    byteLength (left ++ right) = byteLength left + byteLength right := by
  rw [byteLength, List.foldl_append, foldl_utf8Size]
  rfl

theorem byteLength_reverse (text : Text) : byteLength text.reverse = byteLength text := by
  induction text with
  | nil => rfl
  | cons character rest ih =>
      rw [List.reverse_cons, byteLength_append, byteLength_cons, byteLength_cons, byteLength_nil, ih]
      omega

def dropEndWhile (accept : Char → Bool) (text : Text) : Text :=
  (text.reverse.dropWhile accept).reverse

def withSlashes (text : Text) : Text :=
  text.map fun character => if character = '\\' then '/' else character

end Text

end ProcedureAtlas
