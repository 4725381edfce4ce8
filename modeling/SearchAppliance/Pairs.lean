namespace SearchAppliance.Pairs

variable {κ α : Type} [DecidableEq κ]

/-- Binds a key. A key that is bound already keeps its place and gets the new value. -/
def put (key : κ) (value : α) : List (κ × α) → List (κ × α)
  | [] => [(key, value)]
  | (k, v) :: rest => if k = key then (key, value) :: rest else (k, v) :: put key value rest

/-- The value bound to a key. -/
def get? (key : κ) (pairs : List (κ × α)) : Option α :=
  (pairs.find? (·.1 = key)).map (·.2)

theorem get?_put_self (key : κ) (value : α) (pairs : List (κ × α)) :
    get? key (put key value pairs) = some value := by
  induction pairs with
  | nil => simp [put, get?]
  | cons pair rest ih =>
    by_cases h : pair.1 = key
    · simp [put, get?, h]
    · simpa [put, get?, h] using ih

theorem get?_put_of_ne {key other : κ} (h : other ≠ key) (value : α)
    (pairs : List (κ × α)) : get? other (put key value pairs) = get? other pairs := by
  induction pairs with
  | nil => simp [put, get?, Ne.symm h]
  | cons pair rest ih =>
    by_cases hk : pair.1 = key
    · simp [put, get?, hk, Ne.symm h]
    · by_cases ho : pair.1 = other
      · simp [put, get?, ho, h]
      · simpa [put, get?, hk, ho] using ih

/-- The keys after binding one: a new key comes last. -/
theorem keys_put (key : κ) (value : α) (pairs : List (κ × α)) :
    (put key value pairs).map (·.1) =
      if key ∈ pairs.map (·.1) then pairs.map (·.1) else pairs.map (·.1) ++ [key] := by
  induction pairs with
  | nil => simp [put]
  | cons pair rest ih =>
    by_cases h : pair.1 = key
    · simp [put, h]
    · simp only [put, h, if_false, List.map_cons, ih, List.mem_cons, Ne.symm h, false_or]
      split <;> simp

end SearchAppliance.Pairs
