import SearchAppliance.Page.Document
import SearchAppliance.Proofs.Page.Session

namespace SearchAppliance

open Settings (PageOptions)

/-- Is it the report of a value that was left out? -/
def Event.IsWarning (event : Event) : Prop := event.level = "WARNING"

theorem Digest.takeAll_warnings {options : PageOptions} (d : Digest)
    (entries : List (Text × Text)) :
    ∀ event ∈ (takeAll options d entries).events, event.IsWarning := by
  induction entries generalizing d with
  | nil => simp [takeAll, Logged.ok]
  | cons entry rest ih =>
    rw [takeAll]
    split
    · exact ih _
    · split
      · intro event he
        rcases List.mem_cons.mp he with rfl | he
        · rfl
        · exact ih d event he
      · simp [Logged.fail]

namespace Writing

variable {α β : Type}

/-- A part that hands over texts, takes outcomes that are known and reports warnings, and nothing
else. -/
inductive Untimed : {α : Type} → Writing α → Prop
  | ofExcept {α : Type} (outcome : Except Failure α) : Untimed (ofExcept outcome)
  | write (text : Text) : Untimed (write text)
  | ofLogged {α : Type} {a : Logged α} (h : ∀ event ∈ a.events, event.IsWarning) :
    Untimed (ofLogged a)
  | bind {α β : Type} {p : Writing α} {f : α → Writing β} (hp : Untimed p)
    (hf : ∀ a, Untimed (f a)) : Untimed (p >>= f)

theorem Untimed.pure (a : α) : Untimed (pure a : Writing α) := .ofExcept (.ok a)

theorem Untimed.writeIfAny (text : Option Text) : Untimed (writeIfAny text) := by
  cases text with
  | none => exact .pure ()
  | some text => exact .write text

theorem Untimed.writeAll (texts : List (Option Text)) : Untimed (writeAll texts) := by
  induction texts with
  | nil => exact .pure ()
  | cons text rest ih => exact (Untimed.writeIfAny text).bind fun _ => ih

end Writing

namespace Page

open Writing (Untimed)

variable {options : PageOptions} {snippets : Snippets} {request : EchoedRequest}
  {identity : Text} {page : Page}

theorem untimed_writeHit (offset : Int) (index : Nat) (hit : Fields) :
    Untimed (writeHit options snippets identity offset index hit) := by
  have hwarn : ∀ event ∈ (hit.elements options snippets identity).events, event.IsWarning :=
    Digest.takeAll_warnings {} hit.entries
  apply (Untimed.ofExcept _).bind
  intro opening
  apply (Untimed.write opening).bind
  intro _
  apply (Untimed.ofLogged hwarn).bind
  intro elements
  apply (Untimed.writeAll _).bind
  intro _
  exact .write _

theorem untimed_writeHits (offset : Int) (index : Nat) (hits : List Fields) :
    Untimed (writeHits options snippets identity offset index hits) := by
  induction hits generalizing index with
  | nil => exact .pure ()
  | cons hit rest ih => exact (untimed_writeHit offset index hit).bind fun _ => ih (index + 1)

/-- Is it the prolog, a reading of the time, and a rest that only knows this time? -/
def ReadsOnce (part : Stopwatch → Writing Unit) : Prop :=
  ∃ rest : Float → Writing Unit, (∀ elapsed, Untimed (rest elapsed)) ∧
    ∀ watch, part watch = do
      Writing.write prolog
      rest (← Writing.timed watch.elapsed)

theorem readsOnce_writeHeader (options : PageOptions) (request : EchoedRequest) (page : Page) :
    ReadsOnce (writeHeader options request page) := by
  refine ⟨_, ?_, fun watch => rfl⟩
  intro elapsed
  apply (Untimed.ofExcept (Number.wholePart elapsed)).bind
  intro time
  apply (Untimed.writeIfAny _).bind
  intro _
  apply (Untimed.writeIfAny _).bind
  intro _
  apply (Untimed.ofExcept (page.params request)).bind
  intro params
  apply (Untimed.writeAll _).bind
  intro _
  apply (Untimed.ofExcept page.opening).bind
  intro opening
  apply (Untimed.write opening).bind
  intro _
  apply (Untimed.ofExcept page.foundLine).bind
  intro found
  apply (Untimed.write found).bind
  intro _
  apply (Untimed.write "<FI/>\n").bind
  intro _
  apply (Untimed.ofExcept (page.linkLine options request)).bind
  intro link
  exact .write link

theorem readsOnce_writeBody (options : PageOptions) (snippets : Snippets) (request : EchoedRequest)
    (identity : Text) (page : Page) :
    ReadsOnce (writeBody options snippets request identity page) := by
  obtain ⟨rest, hrest, hheader⟩ := readsOnce_writeHeader options request page
  refine ⟨fun elapsed => do
    rest elapsed
    writeHits options snippets identity page.offset 0 page.hits
    Writing.write (Element.closing "RES")
    Writing.write (Element.closing "GSP"), ?_, ?_⟩
  · intro elapsed
    apply (hrest elapsed).bind
    intro _
    apply (untimed_writeHits page.offset 0 page.hits).bind
    intro _
    apply (Untimed.write (Element.closing "RES")).bind
    intro _
    exact .write (Element.closing "GSP")
  · intro watch
    simp only [writeBody, hheader, bind_assoc]

end Page

end SearchAppliance
