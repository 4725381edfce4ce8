namespace SearchAppliance.Hash.Blake2b

abbrev Words (n : Nat) := Vector UInt64 n

def iv : Words 8 := #v[
  0x6a09e667f3bcc908, 0xbb67ae8584caa73b, 0x3c6ef372fe94f82b, 0xa54ff53a5f1d36f1,
  0x510e527fade682d1, 0x9b05688c2b3e6c1f, 0x1f83d9abfb41bd6b, 0x5be0cd19137e2179]

/-- The order in which the words of a block enter each round. Rounds beyond the tenth begin again. -/
def sigma : List (Vector (Fin 16) 16) := [
  #v[0, 1, 2, 3, 4, 5, 6, 7, 8, 9, 10, 11, 12, 13, 14, 15],
  #v[14, 10, 4, 8, 9, 15, 13, 6, 1, 12, 0, 2, 11, 7, 5, 3],
  #v[11, 8, 12, 0, 5, 2, 15, 13, 10, 14, 3, 6, 7, 1, 9, 4],
  #v[7, 9, 3, 1, 13, 12, 11, 14, 2, 6, 5, 10, 4, 0, 15, 8],
  #v[9, 0, 5, 7, 2, 4, 10, 15, 14, 1, 11, 12, 6, 8, 3, 13],
  #v[2, 12, 6, 10, 0, 11, 8, 3, 4, 13, 7, 5, 15, 14, 1, 9],
  #v[12, 5, 1, 15, 14, 13, 4, 10, 0, 7, 6, 3, 9, 2, 8, 11],
  #v[13, 11, 7, 14, 12, 1, 3, 9, 5, 0, 15, 4, 8, 6, 2, 10],
  #v[6, 15, 14, 9, 11, 3, 0, 8, 12, 2, 13, 7, 1, 4, 10, 5],
  #v[10, 2, 8, 4, 7, 6, 1, 5, 15, 11, 9, 14, 3, 12, 13, 0],
  #v[0, 1, 2, 3, 4, 5, 6, 7, 8, 9, 10, 11, 12, 13, 14, 15],
  #v[14, 10, 4, 8, 9, 15, 13, 6, 1, 12, 0, 2, 11, 7, 5, 3]]

def rotr (x : UInt64) (n : UInt64) : UInt64 := x >>> n ||| x <<< (64 - n)

/-- Mixes two message words into four words of the state. -/
def mix (v : Words 16) (a b c d : Fin 16) (x y : UInt64) : Words 16 :=
  let a₁ := v[a] + v[b] + x
  let d₁ := rotr (v[d] ^^^ a₁) 32
  let c₁ := v[c] + d₁
  let b₁ := rotr (v[b] ^^^ c₁) 24
  let a₂ := a₁ + b₁ + y
  let d₂ := rotr (d₁ ^^^ a₂) 16
  let c₂ := c₁ + d₂
  let b₂ := rotr (b₁ ^^^ c₂) 63
  v.set a a₂ |>.set b b₂ |>.set c c₂ |>.set d d₂

/-- One round: the four columns, then the four diagonals. -/
def round (m : Words 16) (v : Words 16) (s : Vector (Fin 16) 16) : Words 16 :=
  let v := mix v 0 4 8 12 m[s[0]] m[s[1]]
  let v := mix v 1 5 9 13 m[s[2]] m[s[3]]
  let v := mix v 2 6 10 14 m[s[4]] m[s[5]]
  let v := mix v 3 7 11 15 m[s[6]] m[s[7]]
  let v := mix v 0 5 10 15 m[s[8]] m[s[9]]
  let v := mix v 1 6 11 12 m[s[10]] m[s[11]]
  let v := mix v 2 7 8 13 m[s[12]] m[s[13]]
  mix v 3 4 9 14 m[s[14]] m[s[15]]

/-- Takes a block into the chaining value. `count` is the number of message bytes up to its end. -/
def compress (h : Words 8) (m : Words 16) (count : Nat) (last : Bool) : Words 8 :=
  let v : Words 16 := h ++ iv
  let v := v.set 12 (v[12] ^^^ UInt64.ofNat count)
  let v := v.set 13 (v[13] ^^^ UInt64.ofNat (count >>> 64))
  let v := if last then v.set 14 (v[14] ^^^ 0xffffffffffffffff) else v
  let v := sigma.foldl (round m) v
  Vector.ofFn fun i => h[i] ^^^ v[i.val] ^^^ v[i.val + 8]

/-- The number whose bytes are given, the lowest first. -/
def littleEndian (bytes : List UInt8) : Nat := bytes.foldr (fun b n => b.toNat + 256 * n) 0

/-- The words of a block; a short block counts as filled up with zeros. -/
def blockWords (block : List UInt8) : Words 16 :=
  Vector.ofFn fun i => UInt64.ofNat (littleEndian ((block.drop (8 * i.val)).take 8))

/-- Takes `blocks` full blocks and the rest of the message into the chaining value. -/
def absorb : Nat → Nat → Words 8 → List UInt8 → Words 8
  | 0, count, h, message => compress h (blockWords message) (count + message.length) true
  | blocks + 1, count, h, message =>
    absorb blocks (count + 128) (compress h (blockWords (message.take 128)) (count + 128) false)
      (message.drop 128)

/-- The eight bytes of a word, the lowest first. -/
def wordBytes (w : UInt64) : List UInt8 :=
  (List.range 8).map fun i => UInt8.ofNat (w.toNat >>> (8 * i))

/-- The digest of a message, `size` bytes of at most 64. The last block, full or not, is taken in
apart from those before it. -/
def digest (size : Nat) (message : List UInt8) : List UInt8 :=
  let h := iv.set 0 (iv[0] ^^^ UInt64.ofNat (0x01010000 + size))
  let state := absorb ((message.length - 1) / 128) 0 h message
  (state.toList.flatMap wordBytes).take size

end SearchAppliance.Hash.Blake2b
