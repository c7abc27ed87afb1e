import LoadTest.Text.Utf8
import Mathlib.Data.List.Basic

/-!
Texts in the order of their characters are in the order of their bytes.

UTF-8 keeps the order of codes: a longer form has a higher leading byte, and forms of one length
are written with the digits of the code, the highest first.  So the bytes of two characters differ
before either ends (`Ordered`), and the first character in which two texts differ decides for
their bytes as well (`encode_lt_encode`).
-/

namespace LoadTest.Text.Utf8

/-! ### Digits of a code -/

/-- The byte that a character starts with, or consists of. -/
def leading (width offset code : Nat) : List UInt8 := [UInt8.ofNat (code % width + offset)]

/-- The last digit of a code in a byte of its own, behind those of the other digits. -/
def followed (bytes : Nat → List UInt8) (code : Nat) : List UInt8 :=
  bytes (code / 64) ++ [UInt8.ofNat (code % 64 + 128)]

def bytesOf (code : Nat) : List UInt8 :=
  if code ≤ 0x7F then leading 128 0 code
  else if code ≤ 0x7FF then followed (leading 32 192) code
  else if code ≤ 0xFFFF then followed (followed (leading 16 224)) code
  else followed (followed (followed (leading 8 240))) code

theorem utf8EncodeChar_eq (character : Char) :
    String.utf8EncodeChar character = bytesOf character.val.toNat := by
  unfold String.utf8EncodeChar bytesOf
  simp only [followed, leading, Nat.div_div_eq_div_mul]
  split_ifs with ascii
  · rw [Nat.mod_eq_of_lt (Nat.lt_succ_of_le ascii)]
    rfl
  all_goals rfl

/-- Of two codes below the bound, the bytes of the lower one come first, whatever follows them. -/
def Ordered (bound : Nat) (bytes : Nat → List UInt8) : Prop :=
  ∀ first second, first < second → second < bound →
    ∀ rest others, bytes first ++ rest < bytes second ++ others

theorem cons_lt_cons {low high : Nat} (lt : low < high) (fits : high < 256)
    (rest others : List UInt8) : UInt8.ofNat low :: rest < UInt8.ofNat high :: others := by
  refine List.cons_lt_cons_iff.2 (.inl ?_)
  rw [UInt8.lt_iff_toNat_lt, UInt8.toNat_ofNat', UInt8.toNat_ofNat']
  omega

theorem ordered_leading (width offset : Nat) (fits : width + offset ≤ 256) :
    Ordered width (leading width offset) := by
  intro first second lt below rest others
  simp only [leading, Nat.mod_eq_of_lt below, Nat.mod_eq_of_lt (Nat.lt_trans lt below)]
  exact cons_lt_cons (by omega) (by omega) rest others

theorem Ordered.followed {bound : Nat} {bytes : Nat → List UInt8} (ordered : Ordered bound bytes) :
    Ordered (bound * 64) (followed bytes) := by
  intro first second lt below rest others
  simp only [Utf8.followed, List.append_assoc, List.singleton_append]
  obtain higher | same := Nat.lt_or_eq_of_le (Nat.div_le_div_right (Nat.le_of_lt lt) (c := 64))
  · exact ordered _ _ higher (by omega) _ _
  · rw [same]
    exact List.append_left_lt (cons_lt_cons (by omega) (by omega) rest others)

/-- Codes up to a cut in one form, and those above it in another that comes after it. -/
theorem Ordered.ite {bound cut : Nat} {short long : Nat → List UInt8}
    (low : Ordered (cut + 1) short) (high : Ordered bound long)
    (across : ∀ first second, first ≤ cut → cut < second → second < bound →
      ∀ rest others, short first ++ rest < long second ++ others) :
    Ordered bound fun code => if code ≤ cut then short code else long code := by
  intro first second lt below rest others
  by_cases secondLow : second ≤ cut
  · have firstLow : first ≤ cut := by omega
    simp only [if_pos secondLow, if_pos firstLow]
    exact low _ _ lt (by omega) _ _
  · by_cases firstLow : first ≤ cut
    · simp only [if_pos firstLow, if_neg secondLow]
      exact across _ _ firstLow (by omega) below _ _
    · simp only [if_neg firstLow, if_neg secondLow]
      exact high _ _ lt below _ _

theorem Ordered.mono {bound limit : Nat} {bytes : Nat → List UInt8} (ordered : Ordered bound bytes)
    (le : limit ≤ bound) : Ordered limit bytes :=
  fun first second lt below => ordered first second lt (by omega)

theorem ordered_bytesOf : Ordered 0x110000 bytesOf := by
  have one : Ordered (0x7F + 1) (leading 128 0) := ordered_leading 128 0 (by decide)
  have two : Ordered (0x7FF + 1) (followed (leading 32 192)) :=
    (ordered_leading 32 192 (by decide)).followed
  have three : Ordered (0xFFFF + 1) (followed (followed (leading 16 224))) :=
    (ordered_leading 16 224 (by decide)).followed.followed
  have four : Ordered 0x110000 (followed (followed (followed (leading 8 240)))) :=
    (ordered_leading 8 240 (by decide)).followed.followed.followed.mono (by decide)
  refine one.ite (two.ite (three.ite four ?_) ?_) ?_
  -- A longer form starts with a higher byte, whichever form it is.
  all_goals
    intro first second atMost above below rest others
    simp only [followed, leading, List.cons_append, List.nil_append]
  · exact cons_lt_cons (by omega) (by omega) _ _
  · split_ifs <;> exact cons_lt_cons (by omega) (by omega) _ _
  · split_ifs <;> exact cons_lt_cons (by omega) (by omega) _ _

theorem utf8EncodeChar_lt {first second : Char} (lt : first < second) (rest others : List UInt8) :
    String.utf8EncodeChar first ++ rest < String.utf8EncodeChar second ++ others := by
  have below : second.toNat < 0x110000 := by
    obtain small | ⟨_, small⟩ := second.valid
    · exact Nat.lt_trans small (by decide)
    · exact small
  rw [utf8EncodeChar_eq, utf8EncodeChar_eq]
  exact ordered_bytesOf _ _ lt below rest others

/-! ### Texts -/

theorem flatMap_lt {first second : List Char} (lt : first < second) :
    first.flatMap String.utf8EncodeChar < second.flatMap String.utf8EncodeChar := by
  induction lt with
  | @nil character rest =>
      rw [List.flatMap_cons]
      cases bytes : String.utf8EncodeChar character with
      | nil => exact absurd bytes String.utf8EncodeChar_ne_nil
      | cons => exact List.Lex.nil
  | rel lower => exact utf8EncodeChar_lt lower _ _
  | cons _ inductionHypothesis => exact List.append_left_lt inductionHypothesis

theorem toList_loop (bytes : ByteArray) (index : Nat) (before : List UInt8) :
    ByteArray.toList.loop bytes index before = before.reverse ++ bytes.data.toList.drop index := by
  fun_induction ByteArray.toList.loop bytes index before with
  | case1 index before inside inductionHypothesis =>
      have bound : index < bytes.data.toList.length := by simpa using inside
      rw [inductionHypothesis, List.drop_eq_getElem_cons bound]
      simp [ByteArray.get!, inside]
  | case2 index before outside =>
      rw [List.drop_eq_nil_of_le (by simpa using outside), List.append_nil]

theorem encode_eq (text : String) :
    encode text = text.toList.flatMap String.utf8EncodeChar := by
  have bytes : text.toUTF8 = (text.toList.flatMap String.utf8EncodeChar).toByteArray := by
    conv_lhs => rw [← String.ofList_toList (s := text)]
    exact String.toByteArray_ofList
  have listed : encode text = text.toUTF8.data.toList := toList_loop text.toUTF8 0 []
  rw [listed, bytes, List.toList_data_toByteArray]

/-- The order of texts is the order of their bytes. -/
theorem encode_lt_encode {first second : String} (lt : first < second) :
    encode first < encode second := by
  rw [encode_eq, encode_eq]
  exact flatMap_lt (String.lt_iff.1 lt)

end LoadTest.Text.Utf8
