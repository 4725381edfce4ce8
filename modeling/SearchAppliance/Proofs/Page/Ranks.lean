import SearchAppliance.Proofs.Number.DecimalText
import SearchAppliance.Proofs.Page.Texts
import SearchAppliance.Proofs.Result.Digest
import SearchAppliance.Proofs.Text.Cut

namespace SearchAppliance

open Settings (PageOptions)

namespace Page

/-- The number between a mark that a text begins with and the next quotation mark, and what comes
after that. -/
def numberAfter? (mark cs : List CodePoint) : Option (Int × List CodePoint) :=
  if mark.isPrefixOf cs then
    let rest := cs.drop mark.length
    (Number.ofText? (rest.takeWhile (· ≠ .char '"'))).map (·, (rest.dropWhile (· ≠ .char '"')).drop 1)
  else none

/-- The rank in the start tag of a result. -/
def rank? (text : Text) : Option Int :=
  (numberAfter? ("<R N=\"" : Text).toList text.toList).map (·.1)

/-- The ranks in the start tag of the results. -/
def bounds? (text : Text) : Option (Int × Int) := do
  let (first, rest) ← numberAfter? ("<RES SN=\"" : Text).toList text.toList
  let (last, _) ← numberAfter? (" EN=\"" : Text).toList rest
  return (first, last)

/-- The number between the last `=` but one of a link and its fixed end. -/
def startOf? (link : Text) : Option Int :=
  Number.ofText? ((link.toList.reverse.drop "&sa=N".length).takeWhile (· ≠ .char '=')).reverse

theorem numberAfter?_append (mark : List CodePoint) (n : Int) (rest : List CodePoint) :
    numberAfter? mark (mark ++ ((toString n : Text).toList ++ .char '"' :: rest)) = some (n, rest) := by
  have hn : .char '"' ∉ (toString n : Text).toList := Number.not_mem_toString n (by decide) rfl
  obtain ⟨ht, hd⟩ := Text.takeWhile_until hn rest
  rw [numberAfter?, if_pos (by simp), List.drop_left]
  simp only [ht, hd, Number.ofText?_toString]
  rfl

theorem numberAfter?_eq_none {mark cs : List CodePoint} (h : ¬mark <+: cs) :
    numberAfter? mark cs = none := by
  rw [numberAfter?, if_neg (by simpa using h)]

variable {options : PageOptions} {snippets : Snippets} {request : EchoedRequest}
  {identity : Text} {page : Page}

theorem startOf?_nextLink {link : Text} (h : page.nextLink options request = .ok link) :
    startOf? link = some page.nextStart := by
  obtain ⟨start, hs, h⟩ := Outcome.bind_eq_ok.mp h
  obtain ⟨-, rfl⟩ := Number.write_eq_ok.mp hs
  obtain ⟨front, rfl⟩ : ∃ front : Text,
      link = front ++ "&start=" ++ toString page.nextStart ++ "&sa=N" :=
    ⟨_, (Outcome.pure_eq_ok.mp h).symm⟩
  have hstop : .char '=' ∉ (toString page.nextStart : Text).toList.reverse := by
    rw [List.mem_reverse]
    exact Number.not_mem_toString _ (by decide) rfl
  have hdrop : (front ++ "&start=" ++ toString page.nextStart ++ "&sa=N").toList.reverse.drop 5 =
      (toString page.nextStart : Text).toList.reverse ++
        .char '=' :: (front ++ "&start").toList.reverse := by
    simp
  rw [startOf?, show "&sa=N".length = 5 from rfl, hdrop, (Text.takeWhile_until hstop _).1,
    List.reverse_reverse, Number.ofText?_toString]

theorem nextLink_isOk (h : page.nextStart.natAbs < Number.numeralBound) :
    ∃ link, page.nextLink options request = .ok link := by
  rw [nextLink, Number.write_of_lt h]
  exact ⟨_, rfl⟩

/-- Does the text begin with a tag that has no attributes? -/
def Plain (text : Text) : Prop :=
  ∃ name : List CodePoint, .char ' ' ∉ name ∧ .char '<' :: (name ++ [.char '>']) <+: text.toList

theorem Plain.not_prefix {text : Text} (h : Plain text) (front : List CodePoint) {back : List CodePoint}
    (hf : .char '>' ∉ front) : ¬ .char '<' :: (front ++ .char ' ' :: back) <+: text.toList := by
  obtain ⟨name, hn, rest, ht⟩ := h
  rintro ⟨more, hm⟩
  have he : front ++ (.char ' ' :: (back ++ more)) = name ++ .char '>' :: rest := by
    simpa using hm.trans ht.symm
  -- where the one tag ends early, the other would have its character
  rcases List.append_eq_append_iff.mp he with ⟨as, hname, has⟩ | ⟨bs, hfront, hbs⟩
  · cases as with
    | nil => simp at has
    | cons a as =>
      obtain ⟨rfl, -⟩ := List.cons.inj has
      exact hn (hname ▸ by simp)
  · cases bs with
    | nil => simp at hbs
    | cons b bs =>
      obtain ⟨rfl, -⟩ := List.cons.inj hbs
      exact hf (hfront ▸ by simp)

/-- A text from which no rank and no bounds are read. -/
structure Unmarked (text : Text) : Prop where
  rank : rank? text = none
  bounds : bounds? text = none

theorem unmarked_of_not_prefix {text : Text} (hr : ¬ ("<R N=\"" : Text).toList <+: text.toList)
    (hb : ¬ ("<RES SN=\"" : Text).toList <+: text.toList) : Unmarked text := by
  constructor
  · rw [rank?, numberAfter?_eq_none hr]
    rfl
  · rw [bounds?, numberAfter?_eq_none hb]
    rfl

theorem Plain.unmarked {text : Text} (h : Plain text) : Unmarked text :=
  unmarked_of_not_prefix (h.not_prefix [.char 'R'] (by decide))
    (h.not_prefix [.char 'R', .char 'E', .char 'S'] (by decide))

theorem marks_of_unmarked {texts : List Text} (h : ∀ text ∈ texts, Unmarked text) :
    texts.filterMap rank? = [] ∧ texts.filterMap bounds? = [] :=
  ⟨List.filterMap_eq_nil_iff.mpr fun text ht => (h text ht).rank,
    List.filterMap_eq_nil_iff.mpr fun text ht => (h text ht).bounds⟩

theorem plain_line {name text : Text} {value : Option Text} (hn : .char ' ' ∉ name.toList)
    (h : Element.line? name value = some text) : Plain text := by
  obtain ⟨v, -, rfl⟩ := Option.map_eq_some_iff.mp h
  exact ⟨name.toList, hn, by simp⟩

theorem plain_closing (name : Text) (hn : .char ' ' ∉ name.toList) : Plain (Element.closing name) :=
  ⟨.char '/' :: name.toList, by simpa using hn, by simp [Element.closing]⟩

theorem plain_foundLine {line : Text} (h : page.foundLine = .ok line) : Plain line := by
  obtain ⟨found, -, h⟩ := Outcome.bind_eq_ok.mp h
  rw [← Outcome.pure_eq_ok.mp h]
  exact ⟨[.char 'M'], by decide, by simp⟩

theorem plain_linkLine {line : Text} (h : page.linkLine options request = .ok line) :
    Plain line := by
  obtain ⟨link, -, h⟩ := Outcome.bind_eq_ok.mp h
  rw [← Outcome.pure_eq_ok.mp h]
  exact ⟨[.char 'N', .char 'B'], by decide, by simp⟩

theorem plain_features (d : Digest) : Plain d.features := by
  refine ⟨[.char 'H', .char 'A', .char 'S'], by decide, ?_⟩
  unfold Digest.features
  simp

theorem plain_written {d : Digest} {element : Element} {text : Text}
    (he : element ∈ d.elements snippets identity) (h : element.written? = some text) :
    Plain text := by
  rcases Digest.mem_elements he with ⟨tag, value, rfl⟩ | rfl
  · exact plain_line (by cases tag <;> decide) h
  · cases h
    exact plain_features d

theorem unmarked_param {escapeEcho : Bool} {name text : Text} {value : Option Text}
    (h : Element.param? escapeEcho name value = some text) : Unmarked text := by
  obtain ⟨v, -, rfl⟩ := Option.map_eq_some_iff.mp h
  exact unmarked_of_not_prefix (by simp) (by simp)

theorem opening_marks {text : Text} (h : page.opening = .ok text) :
    rank? text = none ∧
      bounds? text = some (page.offset + 1, page.offset + page.hits.length) := by
  obtain ⟨first, hf, h⟩ := Outcome.bind_eq_ok.mp h
  obtain ⟨last, hl, h⟩ := Outcome.bind_eq_ok.mp h
  obtain ⟨-, rfl⟩ := Number.write_eq_ok.mp hf
  obtain ⟨-, rfl⟩ := Number.write_eq_ok.mp hl
  rw [← Outcome.pure_eq_ok.mp h]
  constructor
  · rw [rank?, numberAfter?_eq_none (by simp)]
    rfl
  -- the ends of the two numbers are found one after the other
  · have hread (a b : Int) :
        bounds? ("<RES SN=\"" ++ toString a ++ "\" EN=\"" ++ toString b ++ "\">\n" : Text) =
          some (a, b) := by
      have hcs : ("<RES SN=\"" ++ toString a ++ "\" EN=\"" ++ toString b ++ "\">\n" : Text).toList =
          ("<RES SN=\"" : Text).toList ++ ((toString a : Text).toList ++
            .char '"' :: ((" EN=\"" : Text).toList ++
              ((toString b : Text).toList ++ .char '"' :: [.char '>', .char '\n']))) := by
        simp
      rw [bounds?, hcs, numberAfter?_append]
      simp only [Option.bind_eq_bind, Option.bind_some, numberAfter?_append]
      rfl
    exact hread _ _

theorem hitOpening_marks {offset : Int} {index : Nat} {text : Text}
    (h : hitOpening options offset index = .ok text) :
    rank? text = some (offset + index + 1) ∧ bounds? text = none := by
  obtain ⟨rank, hr, h⟩ := Outcome.bind_eq_ok.mp h
  obtain ⟨-, rfl⟩ := Number.write_eq_ok.mp hr
  rw [← Outcome.pure_eq_ok.mp h]
  constructor
  · have hread (n : Int) (attributes : Text) :
        rank? ("<R N=\"" ++ toString n ++ "\"" ++ attributes ++ ">\n") = some n := by
      have hcs : ("<R N=\"" ++ toString n ++ "\"" ++ attributes ++ ">\n" : Text).toList =
          ("<R N=\"" : Text).toList ++
            ((toString n : Text).toList ++
              .char '"' :: (attributes.toList ++ [.char '>', .char '\n'])) := by
        simp
      rw [rank?, hcs, numberAfter?_append]
      rfl
    exact hread _ _
  · rw [bounds?, numberAfter?_eq_none (by simp)]
    rfl

theorem header_marks {elapsed : Float} {header : List Text}
    (h : page.headerTexts options request elapsed = .ok header) :
    header.filterMap rank? = [] ∧
      header.filterMap bounds? = [(page.offset + 1, page.offset + page.hits.length)] := by
  obtain ⟨time, ht, h⟩ := Outcome.bind_eq_ok.mp h
  obtain ⟨params, hp, h⟩ := Outcome.bind_eq_ok.mp h
  obtain ⟨opening, ho, h⟩ := Outcome.bind_eq_ok.mp h
  obtain ⟨found, hf, h⟩ := Outcome.bind_eq_ok.mp h
  obtain ⟨link, hl, h⟩ := Outcome.bind_eq_ok.mp h
  rw [← Outcome.pure_eq_ok.mp h]
  have hfront : ∀ text ∈ [(prolog : Text)]
      ++ (Element.line? "TM" (some (toString time : String))).toList
      ++ (Element.line? "Q" request.query).toList
      ++ params.filterMap (fun param => Element.param? options.escapeEcho param.1 param.2),
      Unmarked text := by
    intro text hm
    simp only [List.mem_append, List.mem_singleton, Option.mem_toList,
      List.mem_filterMap] at hm
    rcases hm with ((rfl | hm) | hm) | ⟨param, -, hm⟩
    · exact unmarked_of_not_prefix (by decide) (by decide)
    · exact (plain_line (by decide) hm).unmarked
    · exact (plain_line (by decide) hm).unmarked
    · exact unmarked_param hm
  obtain ⟨hr, hb⟩ := marks_of_unmarked hfront
  have hopening := opening_marks ho
  have hfound := (plain_foundLine hf).unmarked
  have hempty : Unmarked "<FI/>\n" := unmarked_of_not_prefix (by decide) (by decide)
  have hlink := (plain_linkLine hl).unmarked
  constructor
  · rw [List.filterMap_append, hr]
    simp [hopening, hfound.rank, hempty.rank, hlink.rank]
  · rw [List.filterMap_append, hb]
    simp [hopening, hfound.bounds, hempty.bounds, hlink.bounds]

theorem block_marks {offset : Int} {index : Nat} {hit : Fields} {block : List Text}
    (h : blockTexts options snippets identity offset index hit = .ok block) :
    block.filterMap rank? = [offset + index + 1] ∧ block.filterMap bounds? = [] := by
  obtain ⟨opening, ho, h⟩ := Outcome.bind_eq_ok.mp h
  obtain ⟨elements, he, h⟩ := Outcome.bind_eq_ok.mp h
  obtain ⟨d, -, rfl⟩ := Outcome.map_eq_ok.mp he
  rw [← Outcome.pure_eq_ok.mp h]
  have hopening := hitOpening_marks ho
  have hrest : ∀ text ∈ (d.elements snippets identity).filterMap Element.written?
      ++ [Element.closing "R"], Unmarked text := by
    intro text hm
    simp only [List.mem_append, List.mem_filterMap, List.mem_singleton] at hm
    rcases hm with ⟨element, hd, hm⟩ | rfl
    · exact (plain_written hd hm).unmarked
    · exact (plain_closing _ (by decide)).unmarked
  obtain ⟨hr, hb⟩ := marks_of_unmarked hrest
  rw [List.cons_append, List.filterMap_cons, List.filterMap_cons, hr, hb]
  simp [hopening]

theorem blocks_marks {offset : Int} {index : Nat} {hits : List Fields} {bs : List (List Text)}
    (h : blocks options snippets identity offset index hits = .ok bs) :
    bs.flatten.filterMap rank? =
        (List.range' index hits.length).map (fun i : Nat => offset + i + 1) ∧
      bs.flatten.filterMap bounds? = [] := by
  induction hits generalizing index bs with
  | nil =>
    rw [← Except.ok.inj h]
    exact ⟨rfl, rfl⟩
  | cons hit rest ih =>
    obtain ⟨block, hb, h⟩ := Outcome.bind_eq_ok.mp h
    obtain ⟨more, hm, h⟩ := Outcome.bind_eq_ok.mp h
    rw [← Outcome.pure_eq_ok.mp h, List.flatten_cons, List.filterMap_append, List.filterMap_append]
    obtain ⟨hr, hn⟩ := block_marks hb
    obtain ⟨ihr, ihn⟩ := ih hm
    rw [hr, hn, ihr, ihn]
    simp [List.range'_succ]

/-- On the texts of a page stand the ranks of its hits, one after another, and the first and the
last of them. -/
theorem texts_marks {elapsed : Float} {ts : List Text}
    (h : page.texts options snippets request identity elapsed = .ok ts) :
    ts.filterMap rank? = (List.range page.hits.length).map (fun i : Nat => page.offset + i + 1) ∧
      ts.filterMap bounds? = [(page.offset + 1, page.offset + page.hits.length)] := by
  obtain ⟨header, hh, h⟩ := Outcome.bind_eq_ok.mp h
  obtain ⟨bs, hb, h⟩ := Outcome.bind_eq_ok.mp h
  rw [← Outcome.pure_eq_ok.mp h]
  obtain ⟨hr, hn⟩ := header_marks hh
  obtain ⟨hbr, hbn⟩ := blocks_marks hb
  have hres := (plain_closing "RES" (by decide)).unmarked
  have hgsp := (plain_closing "GSP" (by decide)).unmarked
  simp [hr, hn, hbr, hbn, hres.rank, hres.bounds, hgsp.rank, hgsp.bounds, List.range_eq_range']

end Page

end SearchAppliance
