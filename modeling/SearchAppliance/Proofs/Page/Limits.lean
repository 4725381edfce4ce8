import SearchAppliance.Proofs.Page.Ranks

namespace SearchAppliance

open Settings (PageOptions)

namespace Page

/-- The numbers that a page writes are within the limit. The ranks lie between its first and its
last one. -/
structure Writable (page : Page) : Prop where
  start : page.offset.natAbs < Number.numeralBound
  rows : page.rows.natAbs < Number.numeralBound
  first : (page.offset + 1).natAbs < Number.numeralBound
  last : (page.offset + page.hits.length).natAbs < Number.numeralBound
  found : page.found.natAbs < Number.numeralBound

/-- Is it the whole document of a page? Each of its blocks begins with the start tag of one hit and
ends with its end tag, and there are no other start tags of hits. -/
def Complete (page : Page) (content : Text) : Prop :=
  ∃ (header : List Text) (blocks : List (List Text)),
    content = Text.join
      (header ++ blocks.flatten ++ [Element.closing "RES", Element.closing "GSP"]) ∧
    header.filterMap rank? = [] ∧
    blocks.length = page.hits.length ∧
    blocks.map (fun block => block.filterMap rank?) =
      (List.range page.hits.length).map (fun i : Nat => [page.offset + i + 1]) ∧
    ∀ block ∈ blocks, (block.head?.bind rank?).isSome = true ∧
      block.getLast? = some (Element.closing "R")

variable {options : PageOptions} {snippets : Snippets} {request : EchoedRequest}
  {identity : Text} {page : Page}

theorem block_ends {offset : Int} {index : Nat} {hit : Fields} {block : List Text}
    (h : blockTexts options snippets identity offset index hit = .ok block) :
    (block.head?.bind rank?).isSome = true ∧ block.getLast? = some (Element.closing "R") := by
  obtain ⟨opening, ho, h⟩ := Outcome.bind_eq_ok.mp h
  obtain ⟨elements, -, h⟩ := Outcome.bind_eq_ok.mp h
  rw [← Outcome.pure_eq_ok.mp h]
  refine ⟨?_, List.getLast?_concat⟩
  rw [List.cons_append, List.head?_cons, Option.bind_some, (hitOpening_marks ho).1]
  rfl

theorem blocks_complete {offset : Int} {index : Nat} {hits : List Fields}
    {bs : List (List Text)} (h : blocks options snippets identity offset index hits = .ok bs) :
    bs.map (fun block => block.filterMap rank?) =
        (List.range' index hits.length).map (fun i : Nat => [offset + i + 1]) ∧
      ∀ block ∈ bs, (block.head?.bind rank?).isSome = true ∧
        block.getLast? = some (Element.closing "R") := by
  induction hits generalizing index bs with
  | nil =>
    rw [← Except.ok.inj h]
    exact ⟨rfl, by simp⟩
  | cons hit rest ih =>
    obtain ⟨block, hb, h⟩ := Outcome.bind_eq_ok.mp h
    obtain ⟨more, hm, h⟩ := Outcome.bind_eq_ok.mp h
    rw [← Outcome.pure_eq_ok.mp h]
    obtain ⟨hranks, hends⟩ := ih hm
    refine ⟨?_, ?_⟩
    · rw [List.map_cons, (block_marks hb).1, hranks, List.length_cons, List.range'_succ,
        List.map_cons]
    · rw [List.forall_mem_cons]
      exact ⟨block_ends hb, hends⟩

theorem complete_of_texts {elapsed : Float} {ts : List Text}
    (h : page.texts options snippets request identity elapsed = .ok ts) :
    page.Complete (Text.join ts) := by
  obtain ⟨header, hh, h⟩ := Outcome.bind_eq_ok.mp h
  obtain ⟨bs, hb, h⟩ := Outcome.bind_eq_ok.mp h
  obtain ⟨hranks, hends⟩ := blocks_complete hb
  rw [← List.range_eq_range'] at hranks
  have hlength : bs.length = page.hits.length := by
    simpa using congrArg List.length hranks
  rw [← Outcome.pure_eq_ok.mp h]
  exact ⟨header, bs, rfl, (header_marks hh).1, hlength, hranks, hends⟩

theorem headerTexts_ok (hw : page.Writable) {elapsed : Float} {time : Int}
    (ht : Number.wholePart elapsed = .ok time) :
    ∃ header, page.headerTexts options request elapsed = .ok header := by
  simp only [headerTexts, params, opening, foundLine, linkLine, nextLink, nextStart, ht,
    Number.write_of_lt hw.start, Number.write_of_lt hw.rows, Number.write_of_lt hw.first,
    Number.write_of_lt hw.last, Number.write_of_lt hw.found]
  exact ⟨_, rfl⟩

theorem writable_of_headerTexts {elapsed : Float} {header : List Text}
    (h : page.headerTexts options request elapsed = .ok header) :
    page.Writable ∧ ∃ time, Number.wholePart elapsed = .ok time := by
  obtain ⟨time, ht, h⟩ := Outcome.bind_eq_ok.mp h
  obtain ⟨params, hp, h⟩ := Outcome.bind_eq_ok.mp h
  obtain ⟨opening, ho, h⟩ := Outcome.bind_eq_ok.mp h
  obtain ⟨found, hf, -⟩ := Outcome.bind_eq_ok.mp h
  obtain ⟨start, hs, hp⟩ := Outcome.bind_eq_ok.mp hp
  obtain ⟨rows, hr, -⟩ := Outcome.bind_eq_ok.mp hp
  obtain ⟨first, hfirst, ho⟩ := Outcome.bind_eq_ok.mp ho
  obtain ⟨last, hlast, -⟩ := Outcome.bind_eq_ok.mp ho
  obtain ⟨number, hn, -⟩ := Outcome.bind_eq_ok.mp hf
  exact ⟨⟨(Number.write_eq_ok.mp hs).1, (Number.write_eq_ok.mp hr).1,
    (Number.write_eq_ok.mp hfirst).1, (Number.write_eq_ok.mp hlast).1,
    (Number.write_eq_ok.mp hn).1⟩, time, ht⟩

theorem write_cause {n : Int} {cause : Failure} (h : Number.write n = .error cause) :
    cause.isMalformedField = false := by
  obtain ⟨-, rfl⟩ := Number.write_eq_error.mp h
  rfl

theorem wholePart_cause {elapsed : Float} {cause : Failure}
    (h : Number.wholePart elapsed = .error cause) : cause.isMalformedField = false := by
  unfold Number.wholePart at h
  split at h
  · cases h
  · cases h
    split <;> rfl

theorem headerTexts_cause {elapsed : Float} {cause : Failure}
    (h : page.headerTexts options request elapsed = .error cause) :
    cause.isMalformedField = false := by
  rcases Outcome.bind_eq_error.mp h with h | ⟨time, -, h⟩
  · exact wholePart_cause h
  rcases Outcome.bind_eq_error.mp h with h | ⟨params, -, h⟩
  · rcases Outcome.bind_eq_error.mp h with h | ⟨start, -, h⟩
    · exact write_cause h
    rcases Outcome.bind_eq_error.mp h with h | ⟨rows, -, h⟩
    · exact write_cause h
    · cases h
  rcases Outcome.bind_eq_error.mp h with h | ⟨opening, -, h⟩
  · rcases Outcome.bind_eq_error.mp h with h | ⟨first, -, h⟩
    · exact write_cause h
    rcases Outcome.bind_eq_error.mp h with h | ⟨last, -, h⟩
    · exact write_cause h
    · cases h
  rcases Outcome.bind_eq_error.mp h with h | ⟨found, -, h⟩
  · rcases Outcome.bind_eq_error.mp h with h | ⟨number, -, h⟩
    · exact write_cause h
    · cases h
  rcases Outcome.bind_eq_error.mp h with h | ⟨line, -, h⟩
  · rcases Outcome.bind_eq_error.mp h with h | ⟨link, -, h⟩
    · rcases Outcome.bind_eq_error.mp h with h | ⟨next, -, h⟩
      · exact write_cause h
      · cases h
    · cases h
  · cases h

theorem hitOpening_ok (options : PageOptions) {offset : Int} {index : Nat}
    (h : (offset + index + 1).natAbs < Number.numeralBound) :
    ∃ text, hitOpening options offset index = .ok text := by
  rw [hitOpening, Number.write_of_lt h]
  exact ⟨_, rfl⟩

theorem blockTexts_of_elements {offset : Int} {index : Nat} {hit : Fields}
    (hr : (offset + index + 1).natAbs < Number.numeralBound)
    (h : (hit.elements options snippets identity).outcome.isOk = true) :
    ∃ block, blockTexts options snippets identity offset index hit = .ok block := by
  obtain ⟨opening, ho⟩ := hitOpening_ok options hr
  obtain ⟨elements, he⟩ := Outcome.isOk_iff.mp h
  rw [blockTexts, ho, he]
  exact ⟨_, rfl⟩

theorem elements_isOk {hit : Fields} (h : hit.entries.find? (Digest.refuses options) = none) :
    (hit.elements options snippets identity).outcome.isOk = true := by
  obtain ⟨d, hd⟩ : ∃ d, (Digest.ofFields options hit).outcome = .ok d := Digest.takeAll_ok {} h
  exact Outcome.isOk_iff.mpr ⟨_, Outcome.map_eq_ok.mpr ⟨d, hd, rfl⟩⟩

theorem blockTexts_ok {offset : Int} {index : Nat} {hit : Fields}
    (hr : (offset + index + 1).natAbs < Number.numeralBound)
    (h : hit.entries.find? (Digest.refuses options) = none) :
    ∃ block, blockTexts options snippets identity offset index hit = .ok block :=
  blockTexts_of_elements hr (elements_isOk h)

theorem blockTexts_error (hs : options.strictNumbers = true) {offset : Int} {index : Nat}
    {hit : Fields} {entry : Text × Text}
    (hr : (offset + index + 1).natAbs < Number.numeralBound)
    (h : hit.entries.find? (Digest.refuses options) = some entry) :
    ∃ cause, blockTexts options snippets identity offset index hit = .error cause ∧
      Digest.Refused options entry cause := by
  obtain ⟨opening, ho⟩ := hitOpening_ok options hr
  obtain ⟨cause, hd, hc⟩ := Digest.takeAll_error hs {} h
  have he : (hit.elements options snippets identity).outcome = .error cause :=
    Outcome.map_eq_error.mpr hd
  rw [blockTexts, ho, he]
  exact ⟨cause, rfl, hc⟩

/-- The ranks of hits from an index on are within the limit. -/
def RanksFit (offset : Int) (index : Nat) (hits : List Fields) : Prop :=
  ∀ i < hits.length, (offset + (index + i : Nat) + 1).natAbs < Number.numeralBound

theorem RanksFit.head {offset : Int} {index : Nat} {hit : Fields} {rest : List Fields}
    (h : RanksFit offset index (hit :: rest)) :
    (offset + index + 1).natAbs < Number.numeralBound :=
  h 0 (Nat.zero_lt_succ _)

theorem RanksFit.tail {offset : Int} {index : Nat} {hit : Fields} {rest : List Fields}
    (h : RanksFit offset index (hit :: rest)) : RanksFit offset (index + 1) rest := by
  intro i hi
  have hnext := h (i + 1) (Nat.succ_lt_succ hi)
  rwa [show index + (i + 1) = index + 1 + i by omega] at hnext

theorem Writable.ranksFit (hw : page.Writable) : RanksFit page.offset 0 page.hits := by
  intro i hi
  have hfirst := hw.first
  have hlast := hw.last
  omega

theorem blocks_of_elements {offset : Int} {index : Nat} {hits : List Fields}
    (hr : RanksFit offset index hits)
    (h : ∀ hit ∈ hits, (hit.elements options snippets identity).outcome.isOk = true) :
    ∃ bs, blocks options snippets identity offset index hits = .ok bs := by
  induction hits generalizing index with
  | nil => exact ⟨[], rfl⟩
  | cons hit rest ih =>
    rw [List.forall_mem_cons] at h
    obtain ⟨block, hb⟩ := blockTexts_of_elements hr.head h.1
    obtain ⟨more, hm⟩ := ih hr.tail h.2
    rw [blocks, hb, hm]
    exact ⟨_, rfl⟩

theorem blocks_ok {offset : Int} {index : Nat} {hits : List Fields}
    (hr : RanksFit offset index hits)
    (h : (hits.flatMap Fields.entries).find? (Digest.refuses options) = none) :
    ∃ bs, blocks options snippets identity offset index hits = .ok bs := by
  apply blocks_of_elements hr
  intro hit hm
  apply elements_isOk
  rw [List.find?_eq_none] at h ⊢
  intro entry he
  exact h entry (List.mem_flatMap.mpr ⟨hit, hm, he⟩)

theorem blocks_error (snippets : Snippets) (identity : Text)
    (hs : options.strictNumbers = true) {offset : Int} {index : Nat} {hits : List Fields}
    {entry : Text × Text} (hr : RanksFit offset index hits)
    (h : (hits.flatMap Fields.entries).find? (Digest.refuses options) = some entry) :
    ∃ cause, blocks options snippets identity offset index hits = .error cause ∧
      Digest.Refused options entry cause := by
  induction hits generalizing index with
  | nil => cases h
  | cons hit rest ih =>
    rw [List.flatMap_cons, List.find?_append] at h
    cases hfirst : hit.entries.find? (Digest.refuses options) with
    | some found =>
      rw [hfirst] at h
      cases h
      obtain ⟨cause, hb, hc⟩ := blockTexts_error hs hr.head hfirst
      rw [blocks, hb]
      exact ⟨cause, rfl, hc⟩
    | none =>
      rw [hfirst, Option.none_or] at h
      obtain ⟨block, hb⟩ := blockTexts_ok hr.head hfirst
      obtain ⟨cause, hm, hc⟩ := ih hr.tail h
      rw [blocks, hb, hm]
      exact ⟨cause, rfl, hc⟩

/-- The first value of the hits that is not taken in, with the name of its field. -/
def refused? (page : Page) (options : PageOptions) : Option (Text × Text) :=
  (page.hits.flatMap Fields.entries).find? (Digest.refuses options)

/-- A page of which only a value may be unusable is given, or that value is named. -/
theorem texts_or_refused (hs : options.strictNumbers = true)
    (hplain : options.encodeAddress = false) (hw : page.Writable)
    {elapsed : Float} {time : Int} (ht : Number.wholePart elapsed = .ok time)
    (hv : ∀ entry, page.refused? options = some entry → ¬Number.Overlong entry.2) :
    (page.refused? options = none ∧
      ∃ ts, page.texts options snippets request identity elapsed = .ok ts) ∨
      ∃ entry, page.refused? options = some entry ∧
        page.texts options snippets request identity elapsed =
          .error (.malformedField entry.1 entry.2) := by
  obtain ⟨header, hh⟩ : ∃ header, page.headerTexts options request elapsed = .ok header :=
    headerTexts_ok hw ht
  cases hr : page.refused? options with
  | none =>
    obtain ⟨bs, hb⟩ : ∃ bs, blocks options snippets identity page.offset 0 page.hits = .ok bs :=
      blocks_ok hw.ranksFit hr
    rw [texts, hh, hb]
    exact Or.inl ⟨rfl, _, rfl⟩
  | some entry =>
    obtain ⟨cause, hb, hc⟩ := blocks_error snippets identity hs hw.ranksFit hr
    refine Or.inr ⟨entry, rfl, ?_⟩
    rw [texts, hh, hb, (hc.refusal hplain).unusable (hv entry hr)]
    rfl

/-- Otherwise it fails, and no value is named. -/
theorem texts_unnamed (hs : options.strictNumbers = true)
    (hplain : options.encodeAddress = false) {elapsed : Float}
    (h : ¬(page.Writable ∧ (∃ time, Number.wholePart elapsed = .ok time) ∧
      ∀ entry, page.refused? options = some entry → ¬Number.Overlong entry.2)) :
    ∃ cause, page.texts options snippets request identity elapsed = .error cause ∧
      cause.isMalformedField = false := by
  cases hh : page.headerTexts options request elapsed with
  | error cause =>
    refine ⟨cause, ?_, headerTexts_cause hh⟩
    rw [texts, hh]
    rfl
  | ok header =>
    obtain ⟨hw, ht⟩ := writable_of_headerTexts hh
    obtain ⟨entry, hr, hlong⟩ :
        ∃ entry, page.refused? options = some entry ∧ Number.Overlong entry.2 := by
      apply Classical.byContradiction
      intro hno
      exact h ⟨hw, ht, fun entry hr hlong => hno ⟨entry, hr, hlong⟩⟩
    obtain ⟨cause, hb, hc⟩ := blocks_error snippets identity hs hw.ranksFit hr
    refine ⟨cause, ?_, (hc.refusal hplain).overlong hlong⟩
    rw [texts, hh, hb]
    rfl

end Page

end SearchAppliance
