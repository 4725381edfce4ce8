import SearchAppliance.Proofs.Text.Percent
import SearchAppliance.Text.Encoding

namespace SearchAppliance.Text.Base64Url

/-- The six-bit number of a letter. -/
def value? (c : Char) : Option Nat :=
  if c.isUpper then some (c.toNat - 0x41)
  else if c.isLower then some (c.toNat - 0x61 + 26)
  else if c.isDigit then some (c.toNat - 0x30 + 52)
  else if c = '-' then some 62
  else if c = '_' then some 63
  else none

/-- The bytes of four letters: three, or fewer where `=` fills up the group. Bits of its last letter
that go into no byte are zero. -/
def group? (a b c d : Char) : Option (List UInt8) :=
  match value? a, value? b, value? c, value? d with
  | some i, some j, some k, some l =>
    let n := i * 262144 + j * 4096 + k * 64 + l
    some [UInt8.ofNat (n / 65536), UInt8.ofNat (n / 256 % 256), UInt8.ofNat (n % 256)]
  | some i, some j, some k, none =>
    let n := i * 4096 + j * 64 + k
    if d = '=' ∧ n % 4 = 0 then some [UInt8.ofNat (n / 1024), UInt8.ofNat (n / 4 % 256)] else none
  | some i, some j, none, none =>
    let n := i * 64 + j
    if c = '=' ∧ d = '=' ∧ n % 16 = 0 then some [UInt8.ofNat (n / 16)] else none
  | _, _, _, _ => none

/-- The bytes of letters. Only the last group may be filled up. -/
def decode? : List Char → Option (List UInt8)
  | [] => some []
  | a :: b :: c :: d :: rest =>
    match group? a b c d with
    | some bytes => if bytes.length = 3 ∨ rest = [] then (decode? rest).map (bytes ++ ·) else none
    | none => none
  | _ => none

variable {c : Char} {n : Nat} {bytes : List UInt8} {letters : List Char}

theorem isSome_value? :
    (value? c).isSome = true ↔ c.isAlphanum = true ∨ c = '-' ∨ c = '_' := by
  have hclasses : c.isAlphanum = (c.isUpper || c.isLower || c.isDigit) := rfl
  simp only [value?, hclasses, Bool.or_eq_true]
  split_ifs <;> simp_all

theorem value?_letter (h : n < 64) : value? (letter n) = some n := by
  have hall : ∀ n < 64, value? (letter n) = some n := by decide +kernel
  exact hall n h

theorem value?_padding : value? '=' = none := by decide

/-- Each number belongs to one letter only. -/
theorem letter_of_value? (h : value? c = some n) : n < 64 ∧ letter n = c := by
  have hletter : (value? c).isSome = true := by rw [h]; rfl
  have hascii : c.toNat < 128 := by
    rcases isSome_value?.mp hletter with hc | rfl | rfl
    · have hrange := toNat_of_isAlphanum hc
      omega
    · decide
    · decide
  have hall : ∀ k < 128, ∀ n ∈ value? (Char.ofNat k), n < 64 ∧ letter n = Char.ofNat k := by
    decide +kernel
  rw [← Char.ofNat_toNat c] at h ⊢
  exact hall c.toNat hascii n h

theorem group?_three (a b c : UInt8) :
    let n := a.toNat * 65536 + b.toNat * 256 + c.toNat
    group? (letter (n / 262144)) (letter (n / 4096 % 64)) (letter (n / 64 % 64)) (letter (n % 64)) =
      some [a, b, c] := by
  intro n
  have ha := a.toNat_lt
  have hb := b.toNat_lt
  have hc := c.toNat_lt
  have hwhole : n / 262144 * 262144 + n / 4096 % 64 * 4096 + n / 64 % 64 * 64 + n % 64 = n := by
    omega
  have hfirst : n / 65536 = a.toNat := by omega
  have hsecond : n / 256 % 256 = b.toNat := by omega
  have hthird : n % 256 = c.toNat := by omega
  rw [group?, value?_letter (by omega), value?_letter (by omega), value?_letter (by omega),
    value?_letter (by omega)]
  simp only [hwhole, hfirst, hsecond, hthird, UInt8.ofNat_toNat]

theorem group?_two (a b : UInt8) :
    let n := a.toNat * 1024 + b.toNat * 4
    group? (letter (n / 4096)) (letter (n / 64 % 64)) (letter (n % 64)) '=' = some [a, b] := by
  intro n
  have ha := a.toNat_lt
  have hb := b.toNat_lt
  have hwhole : n / 4096 * 4096 + n / 64 % 64 * 64 + n % 64 = n := by omega
  have hfirst : n / 1024 = a.toNat := by omega
  have hsecond : n / 4 % 256 = b.toNat := by omega
  have hspare : n % 4 = 0 := by omega
  rw [group?, value?_letter (by omega), value?_letter (by omega), value?_letter (by omega),
    value?_padding]
  simp only [hwhole, hfirst, hsecond, hspare, UInt8.ofNat_toNat, and_self, if_true]

theorem group?_one (a : UInt8) :
    let n := a.toNat * 16
    group? (letter (n / 64)) (letter (n % 64)) '=' '=' = some [a] := by
  intro n
  have ha := a.toNat_lt
  have hwhole : n / 64 * 64 + n % 64 = n := by omega
  have hfirst : n / 16 = a.toNat := by omega
  have hspare : n % 16 = 0 := by omega
  rw [group?, value?_letter (by omega), value?_letter (by omega), value?_padding]
  simp only [hwhole, hfirst, hspare, UInt8.ofNat_toNat, and_self, if_true]

theorem decode?_encode (bytes : List UInt8) : decode? (encode bytes) = some bytes := by
  induction bytes using encode.induct with
  | case1 a b c rest ih =>
    rw [encode, decode?, group?_three, ih]
    simp
  | case2 a b =>
    rw [encode, decode?, group?_two]
    simp [decode?]
  | case3 a =>
    rw [encode, decode?, group?_one]
    simp [decode?]
  | case4 => rfl

theorem join_three (h : n < 16777216) :
    (UInt8.ofNat (n / 65536)).toNat * 65536 + (UInt8.ofNat (n / 256 % 256)).toNat * 256 +
      (UInt8.ofNat (n % 256)).toNat = n := by
  simp only [UInt8.toNat_ofNat']
  omega

theorem join_two (h : n < 262144) (hspare : n % 4 = 0) :
    (UInt8.ofNat (n / 1024)).toNat * 1024 + (UInt8.ofNat (n / 4 % 256)).toNat * 4 = n := by
  simp only [UInt8.toNat_ofNat']
  omega

theorem join_one (h : n < 4096) (hspare : n % 16 = 0) :
    (UInt8.ofNat (n / 16)).toNat * 16 = n := by
  simp only [UInt8.toNat_ofNat']
  omega

/-- Four letters that stand for bytes are what is written for these. -/
theorem encode_of_group? {a b c d : Char} (h : group? a b c d = some bytes) :
    encode bytes = [a, b, c, d] := by
  unfold group? at h
  split at h
  · next i j k l hi hj hk hl =>
    obtain ⟨hi, rfl⟩ := letter_of_value? hi
    obtain ⟨hj, rfl⟩ := letter_of_value? hj
    obtain ⟨hk, rfl⟩ := letter_of_value? hk
    obtain ⟨hl, rfl⟩ := letter_of_value? hl
    obtain rfl := Option.some.inj h
    generalize hn : i * 262144 + j * 4096 + k * 64 + l = n
    have hwhole := join_three (n := n) (by omega)
    have hfirst : n / 262144 = i := by omega
    have hsecond : n / 4096 % 64 = j := by omega
    have hthird : n / 64 % 64 = k := by omega
    have hfourth : n % 64 = l := by omega
    simp only [encode, hwhole, hfirst, hsecond, hthird, hfourth]
  · next i j k hi hj hk hl =>
    obtain ⟨hi, rfl⟩ := letter_of_value? hi
    obtain ⟨hj, rfl⟩ := letter_of_value? hj
    obtain ⟨hk, rfl⟩ := letter_of_value? hk
    obtain ⟨⟨rfl, hspare⟩, hbytes⟩ := Option.ite_none_right_eq_some.mp h
    obtain rfl := Option.some.inj hbytes
    generalize hn : i * 4096 + j * 64 + k = n at hspare
    have hwhole := join_two (n := n) (by omega) hspare
    have hfirst : n / 4096 = i := by omega
    have hsecond : n / 64 % 64 = j := by omega
    have hthird : n % 64 = k := by omega
    simp only [encode, hwhole, hfirst, hsecond, hthird]
  · next i j hi hj hk hl =>
    obtain ⟨hi, rfl⟩ := letter_of_value? hi
    obtain ⟨hj, rfl⟩ := letter_of_value? hj
    obtain ⟨⟨rfl, rfl, hspare⟩, hbytes⟩ := Option.ite_none_right_eq_some.mp h
    obtain rfl := Option.some.inj hbytes
    generalize hn : i * 64 + j = n at hspare
    have hwhole := join_one (n := n) (by omega) hspare
    have hfirst : n / 64 = i := by omega
    have hsecond : n % 64 = j := by omega
    simp only [encode, hwhole, hfirst, hsecond]
  · cases h

theorem encode_append (h : bytes.length = 3) (more : List UInt8) :
    encode (bytes ++ more) = encode bytes ++ encode more := by
  obtain ⟨a, b, c, rfl⟩ := List.length_eq_three.mp h
  rfl

/-- Reading accepts exactly what writing produces. -/
theorem decode?_eq_some : decode? letters = some bytes ↔ letters = encode bytes := by
  constructor
  · intro h
    induction letters using decode?.induct generalizing bytes with
    | case1 =>
      obtain rfl := Option.some.inj h
      rfl
    | case2 a b c d rest first hfirst hlast ih =>
      rw [decode?, hfirst] at h
      simp only [hlast, if_true] at h
      obtain ⟨more, hmore, rfl⟩ := Option.map_eq_some_iff.mp h
      have hgroup := encode_of_group? hfirst
      rcases hlast with hlength | rfl
      · rw [encode_append hlength, hgroup, ← ih hmore]
        rfl
      · obtain rfl := Option.some.inj hmore
        rw [List.append_nil, hgroup]
    | case3 a b c d rest first hfirst hlast =>
      rw [decode?, hfirst] at h
      simp only [hlast, if_false] at h
      cases h
    | case4 a b c d rest hnone =>
      rw [decode?, hnone] at h
      cases h
    | case5 letters hshort hempty =>
      unfold decode? at h
      split at h
      · exact absurd rfl hshort
      · next a b c d rest => exact absurd rfl (hempty a b c d rest)
      · cases h
  · rintro rfl
    exact decode?_encode bytes

theorem length_encode (bytes : List UInt8) :
    (encode bytes).length = 4 * ((bytes.length + 2) / 3) := by
  induction bytes using encode.induct with
  | case1 a b c rest ih =>
    simp only [encode, List.length_cons, ih]
    omega
  | case2 a b => simp [encode]
  | case3 a => simp [encode]
  | case4 => rfl

/-- Bytes that fill their groups are written without `=`. -/
theorem isSome_of_mem_encode (h : bytes.length % 3 = 0) (hc : c ∈ encode bytes) :
    (value? c).isSome = true := by
  induction bytes using encode.induct with
  | case1 a b c' rest ih =>
    have hrest : rest.length % 3 = 0 := by
      simp only [List.length_cons] at h
      omega
    have hletter {n : Nat} (hn : n < 64) : (value? (letter n)).isSome = true := by
      rw [value?_letter hn]
      rfl
    have ha := a.toNat_lt
    have hb := b.toNat_lt
    have hc' := c'.toNat_lt
    simp only [encode, List.mem_cons] at hc
    rcases hc with rfl | rfl | rfl | rfl | hc
    · exact hletter (by omega)
    · exact hletter (by omega)
    · exact hletter (by omega)
    · exact hletter (by omega)
    · exact ih hrest hc
  | case2 a b => cases h
  | case3 a => cases h
  | case4 => cases hc

end SearchAppliance.Text.Base64Url
