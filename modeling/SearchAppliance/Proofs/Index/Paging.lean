import Mathlib.Data.Nat.Find
import SearchAppliance.Proofs.Index.Reference
import SearchAppliance.Proofs.Page.Ranks

namespace SearchAppliance

open Settings (PageOptions)

/-- What stays the same on the way from page to page, and how many hits each page may have. -/
structure Browse where
  query : Text
  sort : Option Text := none
  fields : Option (List Text) := none
  sizes : Nat → Int

namespace Browse

/-- The request for a page that begins at an offset. -/
def request (browse : Browse) (n : Nat) (offset : Int) : Search where
  query := browse.query
  offset := offset
  rows := browse.sizes n
  sort := browse.sort
  fields := browse.fields

/-- The pages in order: the first begins at zero, each further one where the one before leads. -/
def visit (browse : Browse) (index : Index) : Nat → Except Failure SearchResult
  | 0 => index.search (browse.request 0 0)
  | n + 1 => do
    let before ← browse.visit index n
    index.search (browse.request (n + 1) before.page.nextStart)

/-- Where the pages begin when that many hits were found. -/
def start (browse : Browse) (found : Nat) : Nat → Nat
  | 0 => 0
  | n + 1 => min found (browse.start found n + (browse.sizes n).toNat)

/-- A page of the hits in a ranking. -/
def page (browse : Browse) (ranked : List Match) (n : Nat) : Page :=
  ((browse.request n (browse.start ranked.length n)).resultOf ranked).page

variable {browse : Browse} {ranked : List Match}

theorem start_le (found n : Nat) : browse.start found n ≤ found := by
  cases n with
  | zero => exact Nat.zero_le _
  | succ n => exact Nat.min_le_left _ _

theorem le_start (hs : ∀ n, 1 ≤ browse.sizes n) (found n : Nat) :
    min found n ≤ browse.start found n := by
  induction n with
  | zero => exact Nat.min_le_right _ _
  | succ n ih =>
    have hsize := hs n
    rw [start]
    omega

theorem request_window (hs : ∀ n, 1 ≤ browse.sizes n) (n start : Nat) :
    0 ≤ (browse.request n start).offset ∧ 0 ≤ (browse.request n start).rows :=
  ⟨Int.natCast_nonneg start, Int.le_trans (by decide) (hs n)⟩

theorem page_hits (hs : ∀ n, 1 ≤ browse.sizes n) (n : Nat) :
    (browse.page ranked n).hits =
      ((ranked.drop (browse.start ranked.length n)).take (browse.sizes n).toNat).map
        fun m => m.fields.restrict browse.fields := by
  obtain ⟨ho, hr⟩ := request_window hs n (browse.start ranked.length n)
  rw [page, Search.resultOf, Search.shown_eq ho hr ranked]
  rfl

theorem page_expectedSize (hs : ∀ n, 1 ≤ browse.sizes n) (n : Nat) :
    ((browse.page ranked n).hits.length : Int) =
      Page.expectedSize (browse.page ranked n).offset (browse.page ranked n).rows
        (browse.page ranked n).found := by
  obtain ⟨ho, hr⟩ := request_window hs n (browse.start ranked.length n)
  exact Search.hits_length ho hr ranked

theorem start_succ (hs : ∀ n, 1 ≤ browse.sizes n) (n : Nat) :
    browse.start ranked.length (n + 1) =
      browse.start ranked.length n + (browse.page ranked n).hits.length := by
  have hle : browse.start ranked.length n ≤ ranked.length := start_le _ n
  rw [page_hits hs, start, List.length_map, List.length_take, List.length_drop]
  omega

theorem nextStart_page (hs : ∀ n, 1 ≤ browse.sizes n) (n : Nat) :
    (browse.page ranked n).nextStart = browse.start ranked.length (n + 1) := by
  rw [start_succ hs]
  rfl

/-- Every page of the way is a page of the same ranking. -/
theorem visit_eq (hs : ∀ n, 1 ≤ browse.sizes n) {index : Index}
    (hr : index.ranking browse.query browse.sort = .ok ranked) (n : Nat) :
    ∃ result, browse.visit index n = .ok result ∧ result.page = browse.page ranked n := by
  induction n with
  | zero => exact ⟨_, Index.search_eq_ok.mpr ⟨ranked, hr, rfl⟩, rfl⟩
  | succ n ih =>
    obtain ⟨before, hb, hp⟩ := ih
    refine ⟨(browse.request (n + 1) before.page.nextStart).resultOf ranked, ?_, ?_⟩
    · exact Outcome.bind_eq_ok.mpr ⟨before, hb, Index.search_eq_ok.mpr ⟨ranked, hr, rfl⟩⟩
    · rw [hp, nextStart_page hs]
      rfl

theorem hits_before (hs : ∀ n, 1 ≤ browse.sizes n) (n : Nat) :
    (List.range n).flatMap (fun k => (browse.page ranked k).hits) =
      (ranked.take (browse.start ranked.length n)).map
        fun m => m.fields.restrict browse.fields := by
  induction n with
  | zero => simp [start]
  | succ n ih =>
    rw [List.range_succ, List.flatMap_append, ih, List.flatMap_singleton, page_hits hs,
      ← List.map_append, ← List.take_add, start, Nat.min_comm, ← List.take_eq_take_min]

/-- The ranks on a way that has come to its n-th page. -/
theorem ranks_before (hs : ∀ n, 1 ≤ browse.sizes n) (n : Nat) :
    (List.range n).flatMap (fun k => (List.range (browse.page ranked k).hits.length).map
      fun i : Nat => (browse.page ranked k).offset + i + 1) =
      (List.range (browse.start ranked.length n)).map fun i : Nat => (i : Int) + 1 := by
  induction n with
  | zero => simp [start]
  | succ n ih =>
    rw [List.range_succ, List.flatMap_append, ih, List.flatMap_singleton, start_succ hs,
      List.range_add, List.map_append, List.map_map]
    congr 1

/-- The way ends: there is a first page without hits, after at most as many pages as hits. -/
theorem exists_end (hs : ∀ n, 1 ≤ browse.sizes n) (found : Nat) :
    ∃ m ≤ found, browse.start found m = found ∧ ∀ k < m, browse.start found k < found := by
  have hend : ∃ m, browse.start found m = found :=
    ⟨found, Nat.le_antisymm (start_le _ _) (by simpa using le_start hs found found)⟩
  refine ⟨Nat.find hend, ?_, Nat.find_spec hend, ?_⟩
  · exact Nat.find_min' hend
      (Nat.le_antisymm (start_le _ _) (by simpa using le_start hs found found))
  · intro k hk
    exact Nat.lt_of_le_of_ne (start_le _ _) (Nat.find_min hend hk)

theorem hits_eq_nil_iff (hs : ∀ n, 1 ≤ browse.sizes n) (n : Nat) :
    (browse.page ranked n).hits = [] ↔ browse.start ranked.length n = ranked.length := by
  have hsize := hs n
  have hle : browse.start ranked.length n ≤ ranked.length := start_le _ n
  rw [← List.length_eq_zero_iff, page_hits hs, List.length_map, List.length_take, List.length_drop]
  omega

theorem offset_succ (hs : ∀ n, 1 ≤ browse.sizes n) {n : Nat} {options : PageOptions}
    {request : EchoedRequest} {link : Text}
    (h : (browse.page ranked n).nextLink options request = .ok link) :
    Page.startOf? link = some (browse.page ranked (n + 1)).offset := by
  rw [Page.startOf?_nextLink h, nextStart_page hs]
  rfl

theorem exists_link (hs : ∀ n, 1 ≤ browse.sizes n) (hl : ranked.length < Number.numeralBound)
    (n : Nat) (options : PageOptions) (request : EchoedRequest) :
    ∃ link, (browse.page ranked n).nextLink options request = .ok link := by
  apply Page.nextLink_isOk
  have hle : browse.start ranked.length (n + 1) ≤ ranked.length := start_le _ (n + 1)
  rw [nextStart_page hs, Int.natAbs_natCast]
  exact Nat.lt_of_le_of_lt hle hl

end Browse

/-- The texts that some writing of the page leaves on a stream, whatever the options and the
rest. -/
def Page.Written (page : Page) (texts : List Text) : Prop :=
  ∃ (options : PageOptions) (snippets : Snippets) (request : EchoedRequest) (identity : Text)
    (clock : Clock) (s : Session),
    page.write options snippets request identity { clock := clock } = (.ok (), s) ∧
      s.stream.texts.toList = texts

theorem Page.Written.marks {page : Page} {texts : List Text} (h : page.Written texts) :
    texts.filterMap rank? = (List.range page.hits.length).map (fun i : Nat => page.offset + i + 1) ∧
      texts.filterMap bounds? = [(page.offset + 1, page.offset + page.hits.length)] := by
  obtain ⟨options, snippets, request, identity, clock, s, hw, rfl⟩ := h
  exact texts_marks (texts_of_write hw)

/-- The bounds that a page with hits shows are its first and its last rank. -/
theorem Page.Written.bounds {page : Page} {texts : List Text} (h : page.Written texts)
    (hne : page.hits ≠ []) :
    ∃ first last, texts.filterMap bounds? = [(first, last)] ∧
      (texts.filterMap rank?).head? = some first ∧
      (texts.filterMap rank?).getLast? = some last := by
  obtain ⟨hr, hb⟩ := h.marks
  refine ⟨_, _, hb, ?_, ?_⟩
  · rw [hr, List.head?_map, List.head?_range, if_neg (by simpa using hne)]
    simp
  · rw [hr, List.getLast?_map, List.getLast?_range, if_neg (by simpa using hne)]
    have hpos : 0 < page.hits.length := List.length_pos_iff.mpr hne
    simp only [Option.map_some, Option.some.injEq]
    omega

/-- Going on until a page has no hits shows all documents found, in their order and each once. Every
page counts the same and has as many hits as that leaves, its link leads to the next one, and the
ranks that are written go on from page to page. -/
theorem Browse.visit_complete (documents : List Fields) (browse : Browse)
    (hs : ∀ n, 1 ≤ browse.sizes n)
    (hfirst : (browse.visit (Index.ofDocuments documents) 0).isOk = true) :
    let index := Index.ofDocuments documents
    ∃ (page : Nat → Page) (ranked : List Match) (m : Nat),
      index.ranking browse.query browse.sort = .ok ranked ∧
      ranked.Perm (index.answers (Query.terms browse.query)) ∧
      (ranked.map (·.id)).Nodup ∧
      (∀ n, ∃ result, browse.visit index n = .ok result ∧ result.page = page n) ∧
      (page 0).offset = 0 ∧ (∀ n, (page (n + 1)).offset = (page n).nextStart) ∧
      (∀ n, (page n).rows = browse.sizes n) ∧ (∀ n, (page n).found = ranked.length) ∧
      (∀ n, ((page n).hits.length : Int) =
        Page.expectedSize (page n).offset (page n).rows (page n).found) ∧
      (∀ n options request link, (page n).nextLink options request = .ok link →
        Page.startOf? link = some (page (n + 1)).offset) ∧
      (ranked.length < Number.numeralBound →
        ∀ n options request, ∃ link, (page n).nextLink options request = .ok link) ∧
      m ≤ ranked.length ∧ (∀ k < m, (page k).hits ≠ []) ∧ (page m).hits = [] ∧
      (List.range m).flatMap (fun k => (page k).hits) =
        ranked.map (fun m => m.fields.restrict browse.fields) ∧
      ∀ written : Nat → List Text, (∀ k < m, (page k).Written (written k)) →
        (List.range m).flatMap (fun k => (written k).filterMap Page.rank?) =
          (List.range ranked.length).map (fun i : Nat => (i : Int) + 1) ∧
        ∀ k < m, ∃ first last, (written k).filterMap Page.bounds? = [(first, last)] ∧
          ((written k).filterMap Page.rank?).head? = some first ∧
          ((written k).filterMap Page.rank?).getLast? = some last := by
  intro index
  obtain ⟨first, hf⟩ := Outcome.isOk_iff.mp hfirst
  obtain ⟨ranked, hrank, -⟩ := Index.search_eq_ok.mp hf
  obtain ⟨m, hm, hend, hbefore⟩ := exists_end hs ranked.length
  have hne : ∀ k < m, (browse.page ranked k).hits ≠ [] := by
    intro k hk h
    exact Nat.ne_of_lt (hbefore k hk) ((hits_eq_nil_iff hs k).mp h)
  refine ⟨browse.page ranked, ranked, m, hrank, Index.ranking_perm hrank,
    Index.ranking_ids_nodup (Index.sound_ofDocuments documents) hrank, visit_eq hs hrank,
    rfl, fun n => (nextStart_page hs n).symm, fun n => rfl, fun n => rfl, page_expectedSize hs,
    fun n options request link h => offset_succ hs h, exists_link hs, hm, hne,
    (hits_eq_nil_iff hs m).mpr hend, ?_, ?_⟩
  · rw [hits_before hs, hend, List.take_length]
  · intro written hw
    refine ⟨?_, fun k hk => (hw k hk).bounds (hne k hk)⟩
    have hranks : (List.range m).flatMap (fun k => (written k).filterMap Page.rank?) =
        (List.range m).flatMap fun k => (List.range (browse.page ranked k).hits.length).map
          fun i : Nat => (browse.page ranked k).offset + i + 1 := by
      rw [List.flatMap_def, List.flatMap_def]
      congr 1
      apply List.map_congr_left
      intro k hk
      exact (hw k (List.mem_range.mp hk)).marks.1
    rw [hranks, ranks_before hs, hend]

/-- From the latest tea to the earliest, two on a page: the third page has no hits. -/
theorem Browse.visit_teas :
    let browse : Browse :=
      { query := "tea", sort := some "last_modified desc", sizes := fun _ => 2 }
    (∀ n, 1 ≤ browse.sizes n) ∧
      (browse.visit (Index.ofDocuments Index.teas) 0).isOk = true ∧
      ∃ page : Nat → Page,
        (∀ n, ∃ result, browse.visit (Index.ofDocuments Index.teas) n = .ok result ∧
          result.page = page n) ∧
        (page 0).hits.length = 2 ∧ (page 1).hits.length = 1 ∧ (page 2).hits = [] := by
  intro browse
  have hs : ∀ n, 1 ≤ browse.sizes n := fun n => show (1 : Int) ≤ 2 by decide
  have hfirst : (browse.visit (Index.ofDocuments Index.teas) 0).isOk = true := by
    rw [visit, Index.search_isOk]
    decide
  refine ⟨hs, hfirst, ?_⟩
  obtain ⟨page, ranked, m, -, hperm, -, hvisit, hzero, hnext, hrows, hfound, hsize, -⟩ :=
    visit_complete Index.teas browse hs hfirst
  have hlen : ranked.length = 3 := hperm.length_eq.trans (by decide)
  have hpage (n : Nat) (offset : Int) (ho : (page n).offset = offset) :
      ((page n).hits.length : Int) = Page.expectedSize offset 2 3 := by
    rw [hsize, ho, hrows, hfound, hlen]
    rfl
  have h0 : (page 0).hits.length = 2 := Int.ofNat.inj (hpage 0 0 hzero)
  have ho1 : (page 1).offset = 2 := by rw [hnext, Page.nextStart, hzero, h0]; rfl
  have h1 : (page 1).hits.length = 1 := Int.ofNat.inj (hpage 1 2 ho1)
  have ho2 : (page 2).offset = 3 := by rw [hnext, Page.nextStart, ho1, h1]; rfl
  have h2 : (page 2).hits.length = 0 := Int.ofNat.inj (hpage 2 3 ho2)
  exact ⟨page, hvisit, h0, h1, List.length_eq_zero_iff.mp h2⟩

end SearchAppliance
