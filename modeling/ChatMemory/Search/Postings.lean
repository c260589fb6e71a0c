import ChatMemory.Relevance.Score
import ChatMemory.Session.Record
import ChatMemory.Text.Containment

/-!
For each term, the sessions that hold it. A search over all sessions asks here which of them can
hold a match.
-/

namespace ChatMemory

structure Postings where
  sessionsByTerm : Std.ExtTreeMap String (Std.ExtTreeSet SessionId)

namespace Postings

def empty : Postings := ⟨∅⟩

def post (session : SessionId) (postings : Postings) (term : String) : Postings :=
  ⟨postings.sessionsByTerm.alter term fun sessions => some ((sessions.getD ∅).insert session)⟩

def without? (session : SessionId) (sessions : Std.ExtTreeSet SessionId) :
    Option (Std.ExtTreeSet SessionId) :=
  let left := sessions.erase session
  if left.isEmpty then none else some left

def withdraw (session : SessionId) (postings : Postings) (term : String) : Postings :=
  ⟨postings.sessionsByTerm.alter term (·.bind (without? session))⟩

def update (postings : Postings) (session : SessionId) (added removed : List String) : Postings :=
  added.foldl (post session) (removed.foldl (withdraw session) postings)

def removeSession (postings : Postings) (session : SessionId) : Postings :=
  ⟨postings.sessionsByTerm.filterMap fun _ sessions => without? session sessions⟩

def sessionsFor (postings : Postings) (term : String) : Std.ExtTreeSet SessionId :=
  postings.sessionsByTerm[term]?.getD ∅

def termCount (postings : Postings) : Nat :=
  postings.sessionsByTerm.size

/-- Whether a held term is close enough to a term of the probe that a message which holds it can
match. -/
def isClose (threshold : Float32) (probeTerm : ProbeTerm) (held : String) : Bool :=
  held == probeTerm.term ||
    (Text.isFragment probeTerm.term && Text.contains held probeTerm.term) ||
    Text.stem held == probeTerm.stem ||
    decide (threshold ≤ Text.trigramSimilarity probeTerm.term held)

def candidates (postings : Postings) (probe : Probe) (threshold : Float32) :
    Std.ExtTreeSet SessionId :=
  let close := postings.sessionsByTerm.toList.filter fun (held, _) =>
    probe.terms.any fun probeTerm => isClose threshold probeTerm held
  .ofList (close.flatMap fun (_, sessions) => sessions.toList)

@[ext]
theorem ext {first second : Postings}
    (sessions : ∀ term : String, first.sessionsByTerm[term]? = second.sessionsByTerm[term]?) :
    first = second := by
  cases first
  cases second
  congr
  exact Std.ExtTreeMap.ext_getElem? sessions

theorem mem_sessionsFor_post {postings : Postings} {session other : SessionId}
    {term held : String} :
    other ∈ (post session postings term).sessionsFor held ↔
      (term = held ∧ session = other) ∨ other ∈ postings.sessionsFor held := by
  by_cases same : term = held
  · subst same
    simp [sessionsFor, post, Std.ExtTreeSet.mem_insert]
  · simp [sessionsFor, post, Std.ExtTreeMap.getElem?_alter, same]

@[simp] theorem mem_getD_without? {session other : SessionId}
    {sessions : Std.ExtTreeSet SessionId} :
    other ∈ (without? session sessions).getD ∅ ↔ session ≠ other ∧ other ∈ sessions := by
  simp only [without?]
  by_cases empty : (sessions.erase session).isEmpty = true
  · have noneLeft : other ∉ sessions.erase session := by
      rw [Std.ExtTreeSet.isEmpty_iff.mp empty]
      exact Std.ExtTreeSet.not_mem_empty
    simpa [empty, Std.ExtTreeSet.mem_erase] using noneLeft
  · simp [empty, Std.ExtTreeSet.mem_erase]

theorem mem_sessionsFor_withdraw {postings : Postings} {session other : SessionId}
    {term held : String} :
    other ∈ (withdraw session postings term).sessionsFor held ↔
      ¬(term = held ∧ session = other) ∧ other ∈ postings.sessionsFor held := by
  by_cases same : term = held
  · subst same
    cases found : postings.sessionsByTerm[term]? with
    | none => simp [sessionsFor, withdraw, found]
    | some sessions =>
      simp [sessionsFor, withdraw, found, mem_getD_without?]
  · simp [sessionsFor, withdraw, Std.ExtTreeMap.getElem?_alter, same]

theorem mem_sessionsFor_removeSession {postings : Postings} {session other : SessionId}
    {held : String} :
    other ∈ (postings.removeSession session).sessionsFor held ↔
      session ≠ other ∧ other ∈ postings.sessionsFor held := by
  cases found : postings.sessionsByTerm[held]? with
  | none => simp [sessionsFor, removeSession, Std.ExtTreeMap.getElem?_filterMap, found]
  | some sessions =>
    simp [sessionsFor, removeSession, Std.ExtTreeMap.getElem?_filterMap, found, mem_getD_without?]

end Postings

end ChatMemory
