import RoutineAtlas.Server

/-!
# Runs of events

Whatever an event about documents does is done in four kinds of steps: a text is written and
indexed, an open text is indexed again, a document is closed, or a document that is not open is read
again. So what these steps keep is kept by every event, and by every run of them. A document is
indexed without checks only where the settings say so.

## Main definitions

* `Event.urls` — the documents that an event is about.
* `Server.handleAll`, `Server.sentAll` — take note of events one after the other.
* `Server.Lasting` — a property of a server, and of what it has sent, that the steps keep.
* `Server.Lasting.handle`, `Server.Lasting.handleAll` — it is kept by events and by runs.
-/

namespace RoutineAtlas

/-- The documents that an event is about. -/
def Event.urls : Event → List Url
  | .initialized => []
  | .opened u _ => [u]
  | .changed u _ => [u]
  | .saved u _ => [u]
  | .closed u => [u]
  | .filesChanged us => us

namespace Server

/-- Take note of events one after the other, each with what the server finds around it then. -/
def handleAll (s : Server) (events : List (Surroundings × Event)) : Server :=
  events.foldl (fun s x => (handle x.1 s x.2).2) s

/-- What is sent while events are noted one after the other. -/
def sentAll (s : Server) : List (Surroundings × Event) → List ServerNotice
  | [] => []
  | x :: rest => (handle x.1 s x.2).1 ++ (handle x.1 s x.2).2.sentAll rest

/-! ## The texts of a server -/

section Texts

variable (s : Server) (u v : Url) (text : Text)

theorem text?_withoutText :
    (s.withoutText u).text? v = if v = u then none else s.text? v := by
  have hlookup (entries : List (Url × Text)) :
      (entries.filter fun entry => entry.1 != u).lookup v =
        if v = u then none else entries.lookup v := by
    induction entries with
    | nil => simp
    | cons entry rest ih =>
      obtain ⟨first, old⟩ := entry
      rw [List.filter_cons, List.lookup_cons]
      by_cases hfirst : first = u
      · subst hfirst
        by_cases hv : v = first
        · simpa [hv] using ih
        · have hbeq : (v == first) = false := beq_eq_false_iff_ne.2 hv
          simpa [hv, hbeq] using ih
      · by_cases hv : v = first
        · subst hv
          simp [hfirst]
        · have hbeq : (v == first) = false := beq_eq_false_iff_ne.2 hv
          simpa [hfirst, List.lookup_cons, hbeq] using ih
  exact hlookup s.documents

theorem text?_withText :
    (s.withText u text).text? v = if v = u then some text else s.text? v := by
  have happend : (s.withText u text).text? v =
      ((s.withoutText u).text? v).or ([(u, text)].lookup v) := List.lookup_append
  rw [happend, text?_withoutText]
  by_cases hv : v = u
  · simp [hv]
  · have hbeq : (v == u) = false := by simpa using hv
    simp [hv, List.lookup_cons, hbeq]

@[simp] theorem text?_withWorkspace (p : Project) (w : Workspace) :
    (s.withWorkspace p w).text? u = s.text? u := rfl

end Texts

/-! ## What a run keeps -/

variable {us : List Url} {Good : List ServerNotice → Server → Prop} {s : Server}

/-- The steps about some documents keep the property. -/
structure Lasting (us : List Url) (Good : List ServerNotice → Server → Prop) : Prop where
  written : ∀ sent s u text withChecks, Good sent s → u ∈ us →
    (∀ p, s.project = some p → p.settings.checkOnChange = true → withChecks = true) →
      Good (sent ++ ((s.withText u text).reindex u text withChecks).1)
        ((s.withText u text).reindex u text withChecks).2
  again : ∀ sent s u text, Good sent s → u ∈ us → s.text? u = some text →
    Good (sent ++ (s.reindex u text true).1) (s.reindex u text true).2
  closed : ∀ sent s u, Good sent s → u ∈ us → Good sent (s.withoutText u)
  reloaded : ∀ sent s u around, Good sent s → u ∈ us → s.text? u = none →
    Good (sent ++ (reload around s u).1) (reload around s u).2

namespace Lasting

variable (h : Lasting us Good)
include h

theorem reloadAll (sent : List ServerNotice) (hs : Good sent s) {changed : List Url}
    (hchanged : changed ⊆ us) (around : Surroundings) :
    Good (sent ++ (Server.reloadAll around s changed).1) (Server.reloadAll around s changed).2 := by
  induction changed generalizing sent s with
  | nil =>
    rw [Server.reloadAll, List.append_nil]
    exact hs
  | cons u rest ih =>
    obtain ⟨hu, hrest⟩ := List.cons_subset.1 hchanged
    cases hopen : s.text? u with
    | some text =>
      simp only [Server.reloadAll, hopen, Option.isSome_some, if_true, List.nil_append]
      exact ih sent hs hrest
    | none =>
      simp only [Server.reloadAll, hopen, Option.isSome_none, Bool.false_eq_true, if_false,
        ← List.append_assoc]
      exact ih _ (h.reloaded sent s u around hs hu hopen) hrest

/-- An event about the documents keeps the property. -/
theorem handle (sent : List ServerNotice) (hs : Good sent s) {e : Event} (he : e ≠ .initialized)
    (hurls : e.urls ⊆ us) (around : Surroundings) :
    Good (sent ++ (Server.handle around s e).1) (Server.handle around s e).2 := by
  cases e with
  | initialized => exact absurd rfl he
  | opened u text => exact h.written sent s u text true hs (hurls (by simp [Event.urls])) (by simp)
  | changed u changes =>
    refine h.written sent s u _ _ hs (hurls (by simp [Event.urls])) ?_
    intro p hp hchecks
    rw [hp]
    exact hchecks
  | saved u given =>
    have hu : u ∈ us := hurls (by simp [Event.urls])
    cases given with
    | some text => exact h.written sent s u text true hs hu (by simp)
    | none =>
      simp only [Server.handle]
      cases hopen : s.text? u with
      | some text => exact h.again sent s u text hs hu hopen
      | none => exact h.reloaded sent s u around hs hu hopen
  | closed u =>
    have hu : u ∈ us := hurls (by simp [Event.urls])
    exact h.reloaded sent _ u around (h.closed sent s u hs hu) hu (by simp [text?_withoutText])
  | filesChanged changed => exact h.reloadAll sent hs hurls around

theorem handleAll (sent : List ServerNotice) (hs : Good sent s)
    {events : List (Surroundings × Event)}
    (hevents : ∀ x ∈ events, x.2 ≠ .initialized ∧ x.2.urls ⊆ us) :
    Good (sent ++ s.sentAll events) (s.handleAll events) := by
  induction events generalizing sent s with
  | nil =>
    rw [sentAll, List.append_nil]
    exact hs
  | cons x rest ih =>
    obtain ⟨⟨hx, hurls⟩, hrest⟩ := List.forall_mem_cons.1 hevents
    rw [sentAll, ← List.append_assoc]
    exact ih _ (h.handle sent hs hx hurls x.1) hrest

end Lasting

end Server

end RoutineAtlas
