import Mathlib.Data.List.Basic
import SearchAppliance.Text.Encoding

namespace SearchAppliance.Text

/-- The UTF-8 bytes of characters. -/
def utf8 (cs : List Char) : List UInt8 := cs.flatMap String.utf8EncodeChar

theorem data_toUTF8 (text : String) : text.toUTF8.data.toList = utf8 text.toList := by
  have hbytes : text.toUTF8 = text.toList.utf8Encode := by
    rw [← String.toByteArray_ofList, String.ofList_toList]
    rfl
  rw [hbytes, List.utf8Encode, List.data_toByteArray]
  rfl

theorem toNat_of_isAlpha {c : Char} (h : c.isAlpha = true) :
    0x41 ≤ c.toNat ∧ c.toNat ≤ 0x5A ∨ 0x61 ≤ c.toNat ∧ c.toNat ≤ 0x7A := by
  rcases Bool.or_eq_true_iff.mp h with hu | hl
  · have hb : 'A'.val ≤ c.val ∧ c.val ≤ 'Z'.val := of_decide_eq_true hu
    rw [UInt32.le_iff_toNat_le, UInt32.le_iff_toNat_le] at hb
    exact Or.inl hb
  · obtain ⟨hfirst, hlast⟩ := Bool.and_eq_true_iff.mp hl
    have hb : 'a'.val ≤ c.val ∧ c.val ≤ 'z'.val :=
      ⟨of_decide_eq_true hfirst, of_decide_eq_true hlast⟩
    rw [UInt32.le_iff_toNat_le, UInt32.le_iff_toNat_le] at hb
    exact Or.inr hb

/-- Letters and digits lie between the zero and the small z. -/
theorem toNat_of_isAlphanum {c : Char} (h : c.isAlphanum = true) :
    0x30 ≤ c.toNat ∧ c.toNat ≤ 0x7A := by
  rcases Bool.or_eq_true_iff.mp h with ha | hd
  · have hn := toNat_of_isAlpha ha
    omega
  · have hn : 0x30 ≤ c.toNat ∧ c.toNat ≤ 0x39 := Char.isDigit_iff_toNat.mp hd
    omega

namespace Percent

/-- The value of a hexadecimal digit, capital or not. -/
def hexValue? (b : UInt8) : Option Nat :=
  let n := b.toNat
  if 0x30 ≤ n ∧ n ≤ 0x39 then some (n - 0x30)
  else if 0x41 ≤ n ∧ n ≤ 0x46 then some (n - 0x41 + 10)
  else if 0x61 ≤ n ∧ n ≤ 0x66 then some (n - 0x61 + 10)
  else none

/-- The byte that three bytes stand for, if these are a percent sign and two hexadecimal digits. -/
def escape? (sign high low : UInt8) : Option UInt8 :=
  if sign = 0x25 then do
    some (UInt8.ofNat (16 * (← hexValue? high) + (← hexValue? low)))
  else none

/-- The bytes that bytes with escapes stand for. What is no escape stands for itself. -/
def decode : List UInt8 → List UInt8
  | sign :: high :: low :: rest =>
    match escape? sign high low with
    | some b => b :: decode rest
    | none => sign :: decode (high :: low :: rest)
  | short => short

/-- The escape that bytes begin with. -/
def firstEscape? : List UInt8 → Option UInt8
  | sign :: high :: low :: _ => escape? sign high low
  | _ => none

/-- A byte after encoding. -/
def escaped (b : UInt8) : List UInt8 :=
  if isSafe (Char.ofNat b.toNat) then [b] else utf8 (byte b)

variable {b sign high low : UInt8} {c : Char} {cs : List Char} {bytes rest : List UInt8}

theorem isSafe_iff :
    isSafe c = true ↔ c.isAlphanum = true ∨ c ∈ "-._~:/?#[]@!$&'()*+,;=%".toList := by
  rw [isSafe, Bool.or_eq_true, List.contains_iff_mem]
  rfl

theorem isSafe_hexDigit {n : Nat} (h : n < 16) : isSafe (hexDigit n) = true := by
  have hall : ∀ n < 16, isSafe (hexDigit n) = true := by decide
  exact hall n h

/-- The characters that stay are printable ASCII characters. -/
theorem toNat_of_isSafe (h : isSafe c = true) : 0x20 ≤ c.toNat ∧ c.toNat ≤ 0x7E := by
  rcases isSafe_iff.mp h with ha | hm
  · have hrange := toNat_of_isAlphanum ha
    omega
  · have hmarks : (marks.all fun c => 0x20 ≤ c.toNat && c.toNat ≤ 0x7E) = true := by decide +kernel
    simpa using List.all_eq_true.mp hmarks c hm

theorem isSafe_of_mem_character {d : Char} (h : d ∈ character c) : isSafe d = true := by
  unfold character at h
  split at h
  · next hsafe =>
    rw [List.mem_singleton.mp h]
    exact hsafe
  · obtain ⟨b, -, hd⟩ := List.mem_flatMap.mp h
    have hlt := b.toNat_lt
    simp only [byte, List.mem_cons, List.not_mem_nil, or_false] at hd
    rcases hd with rfl | rfl | rfl
    · rfl
    · exact isSafe_hexDigit (by omega)
    · exact isSafe_hexDigit (Nat.mod_lt _ (by decide))

theorem isSafe_of_mem_encode (h : c ∈ encode cs) : isSafe c = true := by
  obtain ⟨d, -, hc⟩ := List.mem_flatMap.mp h
  exact isSafe_of_mem_character hc

theorem encode_of_isSafe (h : ∀ c ∈ cs, isSafe c = true) : encode cs = cs := by
  induction cs with
  | nil => rfl
  | cons c cs ih =>
    have hrest := ih fun d hd => h d (List.mem_cons_of_mem c hd)
    rw [encode] at hrest ⊢
    rw [List.flatMap_cons, hrest, character, if_pos (h c List.mem_cons_self)]
    rfl

theorem utf8EncodeChar_of_le (h : c.toNat ≤ 127) : String.utf8EncodeChar c = [UInt8.ofNat c.toNat] :=
  if_pos h

/-- The bytes of other characters than ASCII characters are no ASCII characters. -/
theorem le_of_mem_utf8EncodeChar (hc : 127 < c.toNat) (h : b ∈ String.utf8EncodeChar c) :
    128 ≤ b.toNat := by
  have hv : ¬c.val.toNat ≤ 127 := Nat.not_le.mpr hc
  simp only [String.utf8EncodeChar, if_neg hv] at h
  split at h
  · simp only [List.mem_cons, List.not_mem_nil, or_false] at h
    rcases h with rfl | rfl <;> simp only [UInt8.toNat_ofNat'] <;> omega
  · split at h
    · simp only [List.mem_cons, List.not_mem_nil, or_false] at h
      rcases h with rfl | rfl | rfl <;> simp only [UInt8.toNat_ofNat'] <;> omega
    · simp only [List.mem_cons, List.not_mem_nil, or_false] at h
      rcases h with rfl | rfl | rfl | rfl <;> simp only [UInt8.toNat_ofNat'] <;> omega

/-- A byte of an ASCII character is the character. -/
theorem ofNat_toNat_ofNat (h : c.toNat ≤ 127) : Char.ofNat (UInt8.ofNat c.toNat).toNat = c := by
  have hmod : c.toNat % 256 = c.toNat := Nat.mod_eq_of_lt (by omega)
  rw [UInt8.toNat_ofNat', hmod, Char.ofNat_toNat]

theorem toNat_ofNat_toNat (b : UInt8) : (Char.ofNat b.toNat).toNat = b.toNat := by
  have hall : ∀ n < 256, (Char.ofNat n).toNat = n := by decide +kernel
  exact hall b.toNat b.toNat_lt

/-- Characters are encoded byte by byte. -/
theorem utf8_character (c : Char) :
    utf8 (character c) = (String.utf8EncodeChar c).flatMap escaped := by
  unfold character
  split
  · next hsafe =>
    have hascii : c.toNat ≤ 127 := by
      have hrange := toNat_of_isSafe hsafe
      omega
    rw [utf8, List.flatMap_singleton, utf8EncodeChar_of_le hascii, List.flatMap_singleton, escaped,
      ofNat_toNat_ofNat hascii, if_pos hsafe]
  · next hunsafe =>
    rw [utf8, List.flatMap_assoc]
    refine List.flatMap_congr fun b hb => ?_
    have hbyte : ¬isSafe (Char.ofNat b.toNat) = true := by
      rcases Nat.lt_or_ge 127 c.toNat with hc | hc
      · intro hsafe
        have hrange := toNat_of_isSafe hsafe
        have hle := le_of_mem_utf8EncodeChar hc hb
        rw [toNat_ofNat_toNat] at hrange
        omega
      · rw [utf8EncodeChar_of_le hc, List.mem_singleton] at hb
        rwa [hb, ofNat_toNat_ofNat hc]
    rw [escaped, if_neg hbyte]
    rfl

theorem utf8_encode (cs : List Char) : utf8 (encode cs) = (utf8 cs).flatMap escaped := by
  rw [utf8, encode, utf8, List.flatMap_assoc, List.flatMap_assoc]
  exact List.flatMap_congr fun c _ => utf8_character c

theorem hexValue?_hexDigit {n : Nat} (h : n < 16) :
    ∃ d, String.utf8EncodeChar (hexDigit n) = [d] ∧ hexValue? d = some n := by
  have hall : ∀ n < 16, String.utf8EncodeChar (hexDigit n) = [UInt8.ofNat (hexDigit n).toNat] ∧
      hexValue? (UInt8.ofNat (hexDigit n).toNat) = some n := by decide +kernel
  exact ⟨_, hall n h⟩

/-- Hexadecimal digits stay. -/
theorem isSafe_of_hexValue? {v : Nat} (h : hexValue? b = some v) :
    isSafe (Char.ofNat b.toNat) = true := by
  have hall : ∀ n < 256, (hexValue? (UInt8.ofNat n)).isSome = true →
      isSafe (Char.ofNat n) = true := by decide +kernel
  apply hall b.toNat b.toNat_lt
  rw [UInt8.ofNat_toNat, h]
  rfl

theorem escaped_of_hexValue? {v : Nat} (h : hexValue? b = some v) : escaped b = [b] :=
  if_pos (isSafe_of_hexValue? h)

/-- An encoded byte begins with a hexadecimal digit exactly if it is one, which is then the same. -/
theorem escaped_head (b : UInt8) : ∃ d tail, escaped b = d :: tail ∧ hexValue? d = hexValue? b := by
  unfold escaped
  split
  · exact ⟨b, [], rfl, rfl⟩
  · next hunsafe =>
    have hnone : hexValue? b = none :=
      Option.eq_none_iff_forall_ne_some.mpr fun v hv => hunsafe (isSafe_of_hexValue? hv)
    exact ⟨0x25, _, rfl, hnone.symm⟩

theorem escape?_eq_some : escape? sign high low = some b ↔ sign = 0x25 ∧ ∃ first second,
    hexValue? high = some first ∧ hexValue? low = some second ∧
      UInt8.ofNat (16 * first + second) = b := by
  unfold escape?
  split
  · next hsign => simp [Option.bind_eq_some_iff, hsign]
  · next hsign => simp [hsign]

theorem decode_of_escape {v : UInt8} (h : escape? sign high low = some v) :
    decode (sign :: high :: low :: rest) = v :: decode rest := by
  rw [decode, h]

theorem decode_cons (h : firstEscape? (sign :: rest) = none) :
    decode (sign :: rest) = sign :: decode rest := by
  match rest with
  | [] => rfl
  | [_] => rfl
  | high :: low :: rest =>
    have hnone : escape? sign high low = none := h
    rw [decode, hnone]

theorem firstEscape?_of_high (h : hexValue? high = none) :
    firstEscape? (sign :: high :: rest) = none := by
  cases rest with
  | nil => rfl
  | cons low rest =>
    rw [firstEscape?, escape?, h]
    exact ite_self none

/-- What follows a byte makes an escape of it after encoding exactly if it did before. A percent sign
before an encoded byte begins none, for the encoded byte begins with a percent sign itself. -/
theorem firstEscape?_encoded (sign : UInt8) (rest : List UInt8) :
    firstEscape? (sign :: rest.flatMap escaped) = firstEscape? (sign :: rest) := by
  cases rest with
  | nil => rfl
  | cons high rest =>
    cases hhigh : hexValue? high with
    | none =>
      obtain ⟨d, tail, hd, hvalue⟩ := escaped_head high
      rw [List.flatMap_cons, hd, List.cons_append, firstEscape?_of_high (hvalue.trans hhigh),
        firstEscape?_of_high hhigh]
    | some v =>
      rw [List.flatMap_cons, escaped_of_hexValue? hhigh, List.singleton_append]
      cases rest with
      | nil => rfl
      | cons low rest =>
        obtain ⟨d, tail, hd, hvalue⟩ := escaped_head low
        rw [List.flatMap_cons, hd, List.cons_append, firstEscape?, firstEscape?, escape?, escape?,
          hvalue]

/-- The escape of a byte is read as the byte. -/
theorem decode_byte (b : UInt8) (rest : List UInt8) :
    decode (utf8 (byte b) ++ rest) = b :: decode rest := by
  have hb := b.toNat_lt
  obtain ⟨high, hhigh, hfirst⟩ := @hexValue?_hexDigit (b.toNat / 16) (by omega)
  obtain ⟨low, hlow, hsecond⟩ := @hexValue?_hexDigit (b.toNat % 16) (Nat.mod_lt _ (by decide))
  have hbytes : utf8 (byte b) = [0x25, high, low] := by
    rw [byte, utf8, List.flatMap_cons, List.flatMap_cons, List.flatMap_cons, hhigh, hlow]
    rfl
  have hescape : escape? 0x25 high low = some b := by
    refine escape?_eq_some.mpr ⟨rfl, _, _, hfirst, hsecond, ?_⟩
    rw [Nat.div_add_mod, UInt8.ofNat_toNat]
  rw [hbytes]
  exact decode_of_escape hescape

/-- A byte that begins no escape is read as itself after encoding. -/
theorem decode_encoded_cons (h : firstEscape? (b :: rest) = none) :
    decode ((b :: rest).flatMap escaped) = b :: decode (rest.flatMap escaped) := by
  rw [List.flatMap_cons, escaped]
  split
  · exact decode_cons ((firstEscape?_encoded b rest).trans h)
  · exact decode_byte b _

/-- Encoded bytes stand for the bytes that they stood for before. -/
theorem decode_encoded (bytes : List UInt8) : decode (bytes.flatMap escaped) = decode bytes := by
  induction bytes using decode.induct with
  | case1 sign high low rest b hescape ih =>
    obtain ⟨rfl, first, second, hfirst, hsecond, -⟩ := escape?_eq_some.mp hescape
    have hsign : escaped 0x25 = [0x25] := rfl
    rw [decode_of_escape hescape, ← ih, List.flatMap_cons, List.flatMap_cons, List.flatMap_cons,
      hsign, escaped_of_hexValue? hfirst, escaped_of_hexValue? hsecond]
    exact decode_of_escape hescape
  | case2 sign high low rest hnone ih =>
    have hfirst : firstEscape? (sign :: high :: low :: rest) = none := hnone
    rw [decode_encoded_cons hfirst, ih, decode_cons hfirst]
  | case3 short hshort =>
    match short, hshort with
    | [], _ => rfl
    | [a], _ => exact decode_encoded_cons rfl
    | [a, b], _ =>
      rw [decode_encoded_cons rfl, decode_encoded_cons rfl]
      rfl
    | sign :: high :: low :: rest, h => exact absurd rfl (h sign high low rest)

example : decode (utf8 "%4 %4a%".toList) = utf8 "%4 J%".toList := by decide

theorem character_ne_nil (c : Char) : character c ≠ [] := by
  unfold character
  split
  · exact List.cons_ne_nil c []
  · have hlength : 0 < (String.utf8EncodeChar c).length := by
      rw [String.length_utf8EncodeChar]
      exact c.utf8Size_pos
    obtain ⟨b, hb⟩ := List.exists_mem_of_length_pos hlength
    intro h
    exact List.cons_ne_nil _ _ (List.flatMap_eq_nil_iff.mp h b hb)

/-- Only the empty address is encoded as nothing. -/
theorem encoded_eq_empty {url : String} : encoded url = "" ↔ url = "" := by
  rw [← String.toList_inj, ← String.toList_inj, encoded, String.toList_ofList]
  change encode url.toList = [] ↔ url.toList = []
  constructor
  · intro h
    apply List.eq_nil_iff_forall_not_mem.mpr
    intro c hc
    exact character_ne_nil c (List.flatMap_eq_nil_iff.mp h c hc)
  · intro h
    rw [h]
    rfl

/-- An encoded address has safe characters only, is encoded already, and stands for the same bytes; an
address of safe characters is left as it is. -/
theorem encoded_spec (url : String) :
    (∀ c ∈ (encoded url).toList, isSafe c = true) ∧ encoded (encoded url) = encoded url ∧
      decode (encoded url).toUTF8.data.toList = decode url.toUTF8.data.toList ∧
      ((∀ c ∈ url.toList, isSafe c = true) → encoded url = url) := by
  have hlist : (encoded url).toList = encode url.toList := String.toList_ofList
  have hsafe : ∀ c ∈ (encoded url).toList, isSafe c = true := by
    intro c hc
    exact isSafe_of_mem_encode (hlist ▸ hc)
  have hstays (text : String) (h : ∀ c ∈ text.toList, isSafe c = true) : encoded text = text := by
    rw [encoded, encode_of_isSafe h, String.ofList_toList]
  refine ⟨hsafe, hstays _ hsafe, ?_, hstays url⟩
  rw [data_toUTF8, data_toUTF8, hlist, utf8_encode, decode_encoded]

end Percent

end SearchAppliance.Text
