import KeySequenced.Key
import KeySequenced.Text.Utf8

/-!
# ASCII texts as bytes

An ASCII text takes one byte for each character.  Read as UTF-8, these bytes give
the text back, and a key that consists of them is shown as the text if all of its
characters are visible.
-/

set_option autoImplicit false

namespace KeySequenced

/-! ## Bytes of texts -/

namespace Bytes

theorem toList_loop (array : ByteArray) (index : Nat) (before : Bytes) :
    ByteArray.toList.loop array index before = before.reverse ++ array.data.toList.drop index := by
  induction index, before using ByteArray.toList.loop.induct array with
  | case1 index before inside ih =>
    have within : index < array.data.toList.length := by simpa using inside
    rw [ByteArray.toList.loop, if_pos inside, ih, List.drop_eq_getElem_cons within]
    simp [ByteArray.get!, inside]
  | case2 index before outside =>
    rw [ByteArray.toList.loop, if_neg outside,
      List.drop_eq_nil_of_le (by simpa using Nat.le_of_not_lt outside), List.append_nil]

theorem ofText_eq_flatMap (text : String) :
    ofText text = text.toList.flatMap String.utf8EncodeChar := by
  rw [ofText, ← String.ofList_toList (s := text), String.toList_ofList, ByteArray.toList,
    toList_loop]
  exact List.toList_data_toByteArray

theorem utf8EncodeChar_of_ascii {character : Char} (ascii : character.toNat < 0x80) :
    String.utf8EncodeChar character = [character.toUInt8] := by
  have small : character.val.toNat ≤ 127 := Nat.le_of_lt_succ ascii
  rw [String.utf8EncodeChar, if_pos small]
  rfl

theorem ofText_of_ascii {text : String}
    (ascii : ∀ character ∈ text.toList, character.toNat < 0x80) :
    ofText text = text.toList.map Char.toUInt8 := by
  rw [ofText_eq_flatMap]
  generalize text.toList = characters at ascii ⊢
  induction characters with
  | nil => rfl
  | cons character characters ih =>
    rw [List.flatMap_cons, utf8EncodeChar_of_ascii (ascii character List.mem_cons_self),
      ih fun other member => ascii other (List.mem_cons_of_mem _ member)]
    rfl

theorem ofText_append (front back : String) :
    ofText (front ++ back) = ofText front ++ ofText back := by
  rw [ofText_eq_flatMap, String.toList_append, List.flatMap_append, ← ofText_eq_flatMap,
    ← ofText_eq_flatMap]

theorem length_ofText {text : String}
    (ascii : ∀ character ∈ text.toList, character.toNat < 0x80) :
    (ofText text).length = text.toList.length := by
  rw [ofText_of_ascii ascii, List.length_map]

end Bytes

/-! ## Texts of bytes -/

namespace Text

theorem toNat_toUInt8 {character : Char} (ascii : character.toNat < 0x80) :
    character.toUInt8.toNat = character.toNat := by
  show character.toNat % 256 = character.toNat
  omega

theorem decodeFrom_of_ascii {characters : List Char}
    (ascii : ∀ character ∈ characters, character.toNat < 0x80) :
    decodeFrom none (characters.map Char.toUInt8) = characters := by
  induction characters with
  | nil => rfl
  | cons character characters ih =>
    have small := ascii character List.mem_cons_self
    have rest := ih fun other member => ascii other (List.mem_cons_of_mem _ member)
    simp only [List.map_cons, decodeFrom, Option.filter_none, toNat_toUInt8 small, if_pos small,
      rest, Option.isSome_none, Bool.false_eq_true, if_false, List.nil_append, Char.ofNat_toNat]

theorem ofBytes_ofText {text : String}
    (ascii : ∀ character ∈ text.toList, character.toNat < 0x80) :
    ofBytes (Bytes.ofText text) = text := by
  rw [Bytes.ofText_of_ascii ascii, ofBytes, decodeFrom_of_ascii ascii, String.ofList_toList]

end Text

theorem Key.display_ofText {text : String} (something : text ≠ "")
    (visible : ∀ character ∈ text.toList, 0x20 ≤ character.toNat ∧ character.toNat ≤ 0x7e) :
    Key.display (Bytes.ofText text) = text := by
  have ascii : ∀ character ∈ text.toList, character.toNat < 0x80 := by
    intro character member
    have := visible character member
    omega
  have shown : (text.toList.map Char.toUInt8).all isShown = true := by
    rw [List.all_map, List.all_eq_true]
    intro character member
    have bounds := visible character member
    have same := Text.toNat_toUInt8 (ascii character member)
    simp only [Function.comp_apply, isShown, Bool.and_eq_true, decide_eq_true_eq,
      UInt8.le_iff_toNat_le, same]
    exact bounds
  have characters : (text.toList.map Char.toUInt8).map (fun byte => Char.ofNat byte.toNat)
      = text.toList := by
    rw [List.map_map]
    refine (List.map_congr_left fun character member => ?_).trans (List.map_id _)
    rw [Function.comp_apply, Text.toNat_toUInt8 (ascii character member), Char.ofNat_toNat, id]
  rw [Bytes.ofText_of_ascii ascii, display, shown, characters, String.ofList_toList]
  simp [something]

end KeySequenced
