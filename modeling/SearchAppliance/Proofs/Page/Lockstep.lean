import Mathlib.Data.List.Forall2
import SearchAppliance.Proofs.Page.Texts

namespace SearchAppliance

open Settings (PageOptions)

namespace Outcome

/-- Outcomes with the same failure, or with values that are related. -/
inductive Alike {α β : Type} (Q : α → β → Prop) : Except Failure α → Except Failure β → Prop
  | ok {a : α} {b : β} (h : Q a b) : Alike Q (.ok a) (.ok b)
  | error (cause : Failure) : Alike Q (.error cause) (.error cause)

namespace Alike

variable {α β γ δ : Type} {Q : α → β → Prop} {P : γ → δ → Prop} {x : Except Failure α}
  {y : Except Failure β}

theorem refl {Q : α → α → Prop} (hQ : ∀ a, Q a a) (x : Except Failure α) : Alike Q x x := by
  cases x with
  | ok a => exact .ok (hQ a)
  | error cause => exact .error cause

theorem eq {x y : Except Failure α} (h : Alike (· = ·) x y) : x = y := by
  cases h with
  | ok h => rw [h]
  | error cause => rfl

theorem isOk_eq (h : Alike Q x y) : x.isOk = y.isOk := by
  cases h <;> rfl

theorem imp {Q' : α → β → Prop} (h : Alike Q x y) (hQ : ∀ a b, Q a b → Q' a b) : Alike Q' x y := by
  cases h with
  | ok h => exact .ok (hQ _ _ h)
  | error cause => exact .error cause

theorem map {f : α → γ} {g : β → δ} (h : Alike Q x y) (hf : ∀ a b, Q a b → P (f a) (g b)) :
    Alike P (x.map f) (y.map g) := by
  cases h with
  | ok h => exact .ok (hf _ _ h)
  | error cause => exact .error cause

end Alike

end Outcome

open Outcome (Alike)

/-- The same text, or one that differs from it in the given way. -/
def SameOr (D : Text → Text → Prop) (text other : Text) : Prop := text = other ∨ D text other

section

variable {D : Text → Text → Prop}

theorem SameOr.refl (text : Text) : SameOr D text text := Or.inl rfl

theorem SameOr.rel_self (text : Option Text) : Option.Rel (SameOr D) text text := by
  cases text with
  | none => exact .none
  | some text => exact .some (.refl text)

end

namespace Session

/-- Sessions on the same stream but for its texts, which are the same or differ in the given way. -/
structure Alike (D : Text → Text → Prop) (s t : Session) : Prop where
  texts : List.Forall₂ (SameOr D) s.stream.texts.toList t.stream.texts.toList
  capacity : s.stream.capacity = t.stream.capacity
  clock : s.clock = t.clock
  events : s.events = t.events

namespace Alike

variable {D : Text → Text → Prop} {s t : Session}

theorem refl (s : Session) : s.Alike D s :=
  ⟨List.forall₂_same.mpr fun text _ => .refl text, rfl, rfl, rfl⟩

theorem imp {E : Text → Text → Prop} (h : s.Alike D t)
    (hD : ∀ text other, D text other → SameOr E text other) : s.Alike E t :=
  ⟨h.texts.imp fun text other h => h.elim Or.inl (hD text other), h.capacity, h.clock, h.events⟩

theorem eq (h : s.Alike D t) (hD : ∀ text other, D text other → text = other) : s = t := by
  obtain ⟨⟨texts, capacity⟩, clock, events⟩ := s
  obtain ⟨⟨others, capacity'⟩, clock', events'⟩ := t
  obtain ⟨htexts, hcapacity, hclock, hevents⟩ := h
  have hsame : List.Forall₂ (· = ·) texts.toList others.toList :=
    htexts.imp fun text other h => h.elim id (hD text other)
  rw [List.forall₂_eq_eq_eq] at hsame
  obtain rfl : texts = others := Array.toList_inj.mp hsame
  obtain rfl : capacity = capacity' := hcapacity
  obtain rfl : clock = clock' := hclock
  obtain rfl : events = events' := hevents
  rfl

/-- Streams with as many texts are open or closed together. -/
theorem isOpen (h : s.Alike D t) : s.stream.isOpen = t.stream.isOpen := by
  have hsize : s.stream.texts.size = t.stream.texts.size := h.texts.length_eq
  rw [Stream.isOpen, Stream.isOpen, hsize, h.capacity]

end Alike

end Session

namespace Writing

variable {α β γ δ : Type}

/-- Do two parts take the same course from any two sessions that are alike? They leave sessions that
are alike again, and fail together or give values that are related. -/
def Lockstep (D : Text → Text → Prop) (Q : α → β → Prop) (p : Writing α) (q : Writing β) : Prop :=
  ∀ s t : Session, s.Alike D t → Alike Q (p s).1 (q t).1 ∧ (p s).2.Alike D (q t).2

variable {D : Text → Text → Prop} {Q : α → β → Prop} {P : γ → δ → Prop}

theorem Lockstep.bind {p : Writing α} {q : Writing β} {f : α → Writing γ} {g : β → Writing δ}
    (h : Lockstep D Q p q) (hf : ∀ a b, Q a b → Lockstep D P (f a) (g b)) :
    Lockstep D P (p >>= f) (q >>= g) := by
  intro s t hst
  obtain ⟨houtcome, hsession⟩ := h s t hst
  rw [bind_run, bind_run]
  rcases hp : p s with ⟨x, s'⟩
  rcases hq : q t with ⟨y, t'⟩
  rw [hp, hq] at houtcome hsession
  cases houtcome with
  | ok hab => exact hf _ _ hab s' t' hsession
  | error cause => exact ⟨.error cause, hsession⟩

/-- The second part runs also after a failure of the first one. -/
theorem Lockstep.andAlways {p q : Writing α} {p' q' : Writing γ} (h : Lockstep D (· = ·) p q)
    (h' : Lockstep D (· = ·) p' q') :
    Lockstep D (· = ·) (p.andAlways p') (q.andAlways q') := by
  intro s t hst
  obtain ⟨houtcome, hsession⟩ := h s t hst
  unfold Writing.andAlways
  rcases hp : p s with ⟨x, s'⟩
  rcases hq : q t with ⟨y, t'⟩
  rw [hp, hq] at houtcome hsession
  obtain ⟨houtcome', hsession'⟩ := h' s' t' hsession
  cases houtcome with
  | error cause => exact ⟨.error cause, hsession'⟩
  | ok hab =>
    simp only
    rcases hp' : p' s' with ⟨x', s''⟩
    rcases hq' : q' t' with ⟨y', t''⟩
    rw [hp', hq'] at houtcome' hsession'
    cases houtcome' with
    | error cause => exact ⟨.error cause, hsession'⟩
    | ok hcd => exact ⟨.ok (by rw [hab, hcd]), hsession'⟩

theorem lockstep_ofExcept {x : Except Failure α} {y : Except Failure β} (h : Alike Q x y) :
    Lockstep D Q (ofExcept x) (ofExcept y) :=
  fun _ _ hst => ⟨h, hst⟩

theorem lockstep_known (x : Except Failure α) : Lockstep D (· = ·) (ofExcept x) (ofExcept x) :=
  lockstep_ofExcept (.refl (fun _ => rfl) x)

theorem lockstep_pure (a : α) : Lockstep D (· = ·) (pure a : Writing α) (pure a) :=
  lockstep_known (.ok a)

theorem lockstep_ofLogged {x : Logged α} {y : Logged β} (he : x.events = y.events)
    (ho : Alike Q x.outcome y.outcome) : Lockstep D Q (ofLogged x) (ofLogged y) := by
  intro s t hst
  refine ⟨ho, hst.texts, hst.capacity, hst.clock, ?_⟩
  simp only [ofLogged, hst.events, he]

theorem lockstep_timed (use : Clock → α × Clock) : Lockstep D (· = ·) (timed use) (timed use) := by
  intro s t hst
  rw [timed_run, timed_run, hst.clock]
  exact ⟨.ok rfl, hst.texts, hst.capacity, rfl, hst.events⟩

theorem lockstep_report (event : Event) : Lockstep D (· = ·) (report event) (report event) := by
  intro s t hst
  refine ⟨.ok rfl, hst.texts, hst.capacity, hst.clock, ?_⟩
  simp only [report, hst.events]

theorem lockstep_write {text other : Text} (h : SameOr D text other) :
    Lockstep D (· = ·) (write text) (write other) := by
  intro s t hst
  rw [write, write, hst.isOpen]
  cases t.stream.isOpen with
  | false => exact ⟨.error _, hst⟩
  | true =>
    have hlast : List.Forall₂ (SameOr D) [text] [other] := .cons h .nil
    refine ⟨.ok rfl, ?_, hst.capacity, hst.clock, hst.events⟩
    simpa using List.rel_append hst.texts hlast

theorem lockstep_writeIfAny {text other : Option Text} (h : Option.Rel (SameOr D) text other) :
    Lockstep D (· = ·) (writeIfAny text) (writeIfAny other) := by
  cases h with
  | none => exact lockstep_pure ()
  | some h => exact lockstep_write h

theorem lockstep_writeAll {texts others : List (Option Text)}
    (h : List.Forall₂ (Option.Rel (SameOr D)) texts others) :
    Lockstep D (· = ·) (writeAll texts) (writeAll others) := by
  induction h with
  | nil => exact lockstep_pure ()
  | cons hfirst _ ih => exact (lockstep_writeIfAny hfirst).bind fun _ _ _ => ih

/-- From any two sessions that are alike, does the first part fail for a cause where the second one
succeeds? -/
def Departs (D : Text → Text → Prop) (cause : Failure) (p : Writing α) (q : Writing β) : Prop :=
  ∀ s t u b, s.Alike D t → q t = (.ok b, u) → (p s).1 = .error cause

variable {cause : Failure}

theorem Departs.bind {p : Writing α} {q : Writing β} (h : Departs D cause p q) (f : α → Writing γ)
    (g : β → Writing δ) : Departs D cause (p >>= f) (q >>= g) := by
  intro s t u b hst hq
  obtain ⟨_, v, hfirst, -⟩ := bind_eq_ok hq
  exact bind_error (h s t v _ hst hfirst)

/-- Parts that begin in lockstep depart where the rest does. -/
theorem Lockstep.departs {p : Writing α} {q : Writing β} {f : α → Writing γ} {g : β → Writing δ}
    (h : Lockstep D Q p q) (hf : ∀ a b, Q a b → Departs D cause (f a) (g b)) :
    Departs D cause (p >>= f) (q >>= g) := by
  intro s t u b hst hq
  obtain ⟨c, t', hfirst, hrest⟩ := bind_eq_ok hq
  obtain ⟨houtcome, hsession⟩ := h s t hst
  rcases hp : p s with ⟨x, s'⟩
  rw [hp, hfirst] at houtcome hsession
  cases houtcome with
  | ok hab =>
    rw [bind_of_ok hp]
    exact hf _ _ hab s' t' u b hsession hrest

theorem Departs.andAlways {p : Writing α} {q : Writing β} (h : Departs D cause p q)
    (p' : Writing γ) (q' : Writing δ) : Departs D cause (p.andAlways p') (q.andAlways q') := by
  intro s t u b hst hq
  unfold Writing.andAlways at hq ⊢
  rcases hfirst : q t with ⟨y, t'⟩
  rw [hfirst] at hq
  cases y with
  | error other => cases hq
  | ok c =>
    have hfails := h s t t' c hst hfirst
    rcases hp : p s with ⟨x, s'⟩
    rw [hp] at hfails
    obtain rfl : x = .error cause := hfails
    rfl

theorem departs_ofLogged {x : Logged α} {y : Logged β}
    (h : ∀ b, y.outcome = .ok b → x.outcome = .error cause) :
    Departs D cause (ofLogged x) (ofLogged y) := by
  intro s t u b _ hq
  rw [ofLogged_run] at hq
  exact h b (Prod.mk.inj hq).1

end Writing

namespace Page

open Writing

/-- Are the texts before the hits that depend on options the same, or differ in the given way? -/
structure HeaderMatched (D : Text → Text → Prop) (a b : PageOptions) (request : EchoedRequest)
    (page : Page) : Prop where
  param : ∀ params, page.params request = .ok params → ∀ param ∈ params,
    Option.Rel (SameOr D) (Element.param? a.escapeEcho param.1 param.2)
      (Element.param? b.escapeEcho param.1 param.2)
  link : Alike (SameOr D) (page.linkLine a request) (page.linkLine b request)

/-- Is a hit given with the same reports and with texts that are the same or differ in the given way,
or refused for the same reason? -/
structure HitMatched (D : Text → Text → Prop) (a b : PageOptions) (snippets : Snippets)
    (identity : Text) (offset : Int) (hit : Fields) : Prop where
  opening : ∀ index, Alike (SameOr D) (hitOpening a offset index) (hitOpening b offset index)
  events : (hit.elements a snippets identity).events = (hit.elements b snippets identity).events
  elements : Alike (List.Forall₂ fun x y => Option.Rel (SameOr D) x.written? y.written?)
    (hit.elements a snippets identity).outcome (hit.elements b snippets identity).outcome

/-- Do two ways of writing a page give texts that are the same or differ in the given way, wherever
they read an option? -/
structure Matched (D : Text → Text → Prop) (a b : PageOptions) (snippets : Snippets)
    (request : EchoedRequest) (identity : Text) (page : Page) : Prop where
  header : HeaderMatched D a b request page
  hits : ∀ hit ∈ page.hits, HitMatched D a b snippets identity page.offset hit

section

variable {D : Text → Text → Prop} {a b : PageOptions} {snippets : Snippets}
  {request : EchoedRequest} {identity : Text} {page : Page}

theorem HeaderMatched.lockstep (h : HeaderMatched D a b request page) (watch : Stopwatch) :
    Lockstep D (· = ·) (writeHeader a request page watch) (writeHeader b request page watch) := by
  have hparams : Alike (fun x y => x = y ∧ page.params request = .ok x) (page.params request)
      (page.params request) := by
    cases page.params request with
    | ok params => exact .ok ⟨rfl, rfl⟩
    | error cause => exact .error cause
  apply (lockstep_write (.refl prolog)).bind
  intro _ _ _
  apply (lockstep_timed watch.elapsed).bind
  rintro elapsed _ rfl
  apply (lockstep_known (Number.wholePart elapsed)).bind
  rintro time _ rfl
  apply (lockstep_writeIfAny (SameOr.rel_self _)).bind
  intro _ _ _
  apply (lockstep_writeIfAny (SameOr.rel_self _)).bind
  intro _ _ _
  apply (lockstep_ofExcept hparams).bind
  rintro params _ ⟨rfl, hp⟩
  have hlines : List.Forall₂ (Option.Rel (SameOr D))
      (params.map fun param => Element.param? a.escapeEcho param.1 param.2)
      (params.map fun param => Element.param? b.escapeEcho param.1 param.2) := by
    rw [List.forall₂_map_left_iff, List.forall₂_map_right_iff, List.forall₂_same]
    exact h.param params hp
  apply (lockstep_writeAll hlines).bind
  intro _ _ _
  apply (lockstep_known page.opening).bind
  rintro opening _ rfl
  apply (lockstep_write (.refl opening)).bind
  intro _ _ _
  apply (lockstep_known page.foundLine).bind
  rintro found _ rfl
  apply (lockstep_write (.refl found)).bind
  intro _ _ _
  apply (lockstep_write (.refl "<FI/>\n")).bind
  intro _ _ _
  apply (lockstep_ofExcept h.link).bind
  intro line other hline
  exact Writing.lockstep_write hline

theorem HitMatched.lockstep {offset : Int} {hit : Fields}
    (h : HitMatched D a b snippets identity offset hit) (index : Nat) :
    Lockstep D (· = ·) (writeHit a snippets identity offset index hit)
      (writeHit b snippets identity offset index hit) := by
  apply (lockstep_ofExcept (h.opening index)).bind
  intro opening other hopening
  apply (lockstep_write hopening).bind
  intro _ _ _
  apply (lockstep_ofLogged h.events h.elements).bind
  intro elements others helements
  have hlines : List.Forall₂ (Option.Rel (SameOr D)) (elements.map Element.written?)
      (others.map Element.written?) := by
    rwa [List.forall₂_map_left_iff, List.forall₂_map_right_iff]
  apply (lockstep_writeAll hlines).bind
  intro _ _ _
  exact Writing.lockstep_write (.refl (Element.closing "R"))

theorem lockstep_writeHits {offset : Int} {hits : List Fields}
    (h : ∀ hit ∈ hits, HitMatched D a b snippets identity offset hit) (index : Nat) :
    Lockstep D (· = ·) (writeHits a snippets identity offset index hits)
      (writeHits b snippets identity offset index hits) := by
  induction hits generalizing index with
  | nil => exact lockstep_pure ()
  | cons hit rest ih =>
    rw [List.forall_mem_cons] at h
    exact (h.1.lockstep index).bind fun _ _ _ => ih h.2 (index + 1)

theorem Matched.lockstep_writeBody (h : Matched D a b snippets request identity page)
    (watch : Stopwatch) :
    Lockstep D (· = ·) (writeBody a snippets request identity page watch)
      (writeBody b snippets request identity page watch) := by
  apply (h.header.lockstep watch).bind
  intro _ _ _
  apply (lockstep_writeHits h.hits 0).bind
  intro _ _ _
  apply (lockstep_write (.refl (Element.closing "RES"))).bind
  intro _ _ _
  exact Writing.lockstep_write (.refl (Element.closing "GSP"))

/-- Whole pages are written in lockstep. -/
theorem Matched.lockstep (h : Matched D a b snippets request identity page) :
    Lockstep D (· = ·) (page.write a snippets request identity)
      (page.write b snippets request identity) := by
  apply (lockstep_timed Stopwatch.start).bind
  rintro watch _ rfl
  apply ((h.lockstep_writeBody watch).andAlways (lockstep_timed watch.stop)).bind
  rintro ⟨done, watch⟩ _ rfl
  apply (lockstep_timed watch.elapsed).bind
  rintro elapsed _ rfl
  exact lockstep_report _

end

/-- Do two options take the same course with every session, and leave texts that are the same or
differ in the given way, also where they fail? So do their documents. -/
structure DifferOnly (D : Text → Text → Prop) (a b : PageOptions) (snippets : Snippets)
    (request : EchoedRequest) (identity : Text) (page : Page) : Prop where
  outcome : ∀ s, (page.write a snippets request identity s).1 =
    (page.write b snippets request identity s).1
  session : ∀ s, (page.write a snippets request identity s).2.Alike D
    (page.write b snippets request identity s).2
  events : ∀ clock, (page.document a snippets request identity clock).events =
    (page.document b snippets request identity clock).events
  document : ∀ clock, Alike
    (fun content other => ∃ texts others, List.Forall₂ (SameOr D) texts others ∧
      content = Text.join texts ∧ other = Text.join others)
    (page.document a snippets request identity clock).outcome
    (page.document b snippets request identity clock).outcome

variable {D : Text → Text → Prop} {a b : PageOptions} {snippets : Snippets}
  {request : EchoedRequest} {identity : Text} {page : Page}

theorem Matched.differOnly (h : Matched D a b snippets request identity page) :
    DifferOnly D a b snippets request identity page := by
  have hrun (s : Session) := h.lockstep s s (.refl s)
  refine ⟨fun s => (hrun s).1.eq, fun s => (hrun s).2, ?_, ?_⟩
  · intro clock
    exact congrArg Array.toList (hrun { clock := clock }).2.events
  · intro clock
    apply (hrun { clock := clock }).1.map
    intro _ _ _
    exact ⟨_, _, (hrun { clock := clock }).2.texts, rfl, rfl⟩

theorem DifferOnly.imp {E : Text → Text → Prop}
    (h : DifferOnly D a b snippets request identity page)
    (hD : ∀ text other, D text other → SameOr E text other) :
    DifferOnly E a b snippets request identity page := by
  refine ⟨h.outcome, fun s => (h.session s).imp hD, h.events, ?_⟩
  intro clock
  apply (h.document clock).imp
  rintro content other ⟨texts, others, htexts, hcontent, hother⟩
  refine ⟨texts, others, htexts.imp fun text other h => ?_, hcontent, hother⟩
  exact h.elim Or.inl (hD text other)

/-- If what differs is the same after all, so are the writings and the documents. -/
theorem DifferOnly.same (h : DifferOnly D a b snippets request identity page)
    (hD : ∀ text other, D text other → text = other) :
    page.write a snippets request identity = page.write b snippets request identity ∧
      ∀ clock, page.document a snippets request identity clock =
        page.document b snippets request identity clock := by
  have hwrite : page.write a snippets request identity =
      page.write b snippets request identity := by
    funext s
    exact Prod.ext (h.outcome s) ((h.session s).eq hD)
  refine ⟨hwrite, ?_⟩
  intro clock
  rw [Page.document, Page.document, hwrite]

end Page

end SearchAppliance
