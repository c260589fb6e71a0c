import ChatMemory.Proofs.Session.Reconciling
import ChatMemory.Proofs.Store.Run
import ChatMemory.Search.Finding

/-!
How many messages a search finds as a session grows. Whether a message is found depends on nothing
but the message, the query and the settings. Main statement: the total grows by the messages that
match, as long as all are looked at, and does not fall when only messages that match are added.
-/

namespace ChatMemory

/-! ## The newest items of a list -/

section

variable {α : Type _} (limit : Nat) {holds : α → Bool}

def newest (items : List α) : List α :=
  items.drop (items.length - limit)

private theorem newest_eq_self {items : List α} (within : items.length ≤ limit) :
    newest limit items = items := by
  rw [newest, Nat.sub_eq_zero_of_le within, List.drop_zero]

theorem newest_map {β : Type _} (convert : α → β) (items : List α) :
    newest limit (items.map convert) = (newest limit items).map convert := by
  rw [newest, newest, List.length_map, List.map_drop]

private theorem countP_newest_le_append_singleton (items : List α) {item : α}
    (held : holds item = true) :
    (newest limit items).countP holds ≤ (newest limit (items ++ [item])).countP holds := by
  rcases Nat.lt_or_ge items.length limit with room | full
  · have within : (items ++ [item]).length ≤ limit := by
      rwa [List.length_append]
    rw [newest_eq_self limit (Nat.le_of_lt room), newest_eq_self limit within, List.countP_append]
    exact Nat.le_add_right _ _
  · cases limit with
    | zero => simp [newest]
    | succ limit =>
        -- The oldest item that is looked at gives way to the new one.
        have inside : items.length - (limit + 1) < items.length := by omega
        have next : (items ++ [item]).length - (limit + 1) = items.length - (limit + 1) + 1 := by
          rw [List.length_append, List.length_singleton]
          omega
        rw [newest, newest, next, List.drop_append_of_le_length inside,
          List.drop_eq_getElem_cons inside, List.countP_cons, List.countP_append,
          List.countP_singleton, if_pos held]
        apply Nat.add_le_add_left
        split
        · exact Nat.le_refl 1
        · exact Nat.zero_le 1

private theorem countP_newest_le_append (items : List α) {later : List α}
    (held : ∀ item ∈ later, holds item = true) :
    (newest limit items).countP holds ≤ (newest limit (items ++ later)).countP holds := by
  induction later generalizing items with
  | nil => rw [List.append_nil]
  | cons item rest induction =>
      rcases List.forall_mem_cons.mp held with ⟨first, others⟩
      rw [← List.singleton_append, ← List.append_assoc]
      exact (countP_newest_le_append_singleton limit items first).trans (induction _ others)

end

/-! ## What matches -/

def isFoundBy (text : String) (search : SearchSettings) (scoring : ScoringSettings)
    (content : String) : Bool :=
  match Query.ofText? text with
  | none => false
  | some query => (query.source? search scoring content (.ofText content)).isSome

namespace Session

variable {session : Session}

theorem isSome_hit? (session : Session) (query : Query) (search : SearchSettings)
    (scoring : ScoringSettings) (turn : Turn) :
    (session.hit? query search scoring turn).isSome =
      (query.source? search scoring turn.message.content turn.analysis).isSome := by
  rw [hit?, Query.source?]
  cases query.keywordScore? turn.message.content turn.analysis with
  | some score => rfl
  | none =>
      dsimp only
      split <;> simp_all

/-- Where a message stands in its session and what stands around it do not matter to whether it is
found. -/
theorem Consistent.isSome_hit? (consistent : session.Consistent) {turn : Turn}
    (member : turn ∈ session.turns) {text : String} {query : Query}
    (prepared : Query.ofText? text = some query) (search : SearchSettings)
    (scoring : ScoringSettings) :
    (session.hit? query search scoring turn).isSome =
      isFoundBy text search scoring turn.message.content := by
  have analysed : turn.analysis = .ofText turn.message.content := by
    rw [consistent.analysed turn member]
    rfl
  rw [Session.isSome_hit?, isFoundBy, prepared, analysed]

private theorem Consistent.total_find (consistent : session.Consistent) (text : String)
    (search : SearchSettings) (scoring : ScoringSettings) (limit : Nat) :
    (session.find text search scoring limit).total =
      (newest search.maxScanMessages session.history).countP fun message =>
        isFoundBy text search scoring message.content := by
  rw [find]
  cases prepared : Query.ofText? text with
  | none => simp [isFoundBy, prepared, Findings.nothing]
  | some query =>
      dsimp only
      rw [Findings.ofHits, hits, List.length_filterMap_eq_countP, history, newest_map,
        List.countP_map]
      apply List.countP_congr
      intro turn member
      have present : turn ∈ session.turns := List.mem_of_mem_drop member
      rw [consistent.isSome_hit? present prepared]
      rfl

end Session

/-! ## Appending -/

namespace Live

variable {live : Live}

private theorem exists_appended (named : live.Named) (noneEvicted : live.NoneEvicted)
    (id : SessionId) (messages : List Message) (now : Instant) :
    ∃ after, (live.append id messages now).2.1.sessions[id]? = some after ∧
      after.history = (live.sessionFor id now).history ++ messages ∧
      (live.append id messages now).1 = after.size := by
  let supplied := (live.sessionFor id now).history ++ messages
  have found := getElem?_reconcile named noneEvicted id supplied now
  rw [append_of_noneEvicted noneEvicted]
  refine ⟨(live.outcome id supplied now).1.touch now, found, ?_, ?_⟩
  · exact Session.history_reconcile_append _ messages live.nextSequence.toNat now
  · dsimp only
    rw [sessionFor, found]
    rfl

end Live

namespace Store

variable {β : Type _} [Backend β]

/-- In every session that can come about, whether a message is found depends only on its content,
the query and the settings. When messages are appended, the total grows by those of them that
match, if all messages are still looked at. It never falls if all of them match, however many
messages are looked at. -/
theorem search_total_grows {backend : β} {opened : Store β}
    (opening : (load backend).1 = .ok opened) (actions : List Action) (text : String)
    (search : SearchSettings) (scoring : ScoringSettings) :
    let store := opened.run actions
    (∀ session ∈ store.live.toList, ∀ turn ∈ session.turns, ∀ query,
      Query.ofText? text = some query →
      (session.hit? query search scoring turn).isSome =
        isFoundBy text search scoring turn.message.content) ∧
    ∀ (id : SessionId) (messages : List Message) (now : Instant),
      let before := store.live.sessionFor id now
      ∃ after, (store.append id messages now).2.live.sessions[id]? = some after ∧
        (store.append id messages now).1 = after.size ∧
        after.history = before.history ++ messages ∧
        (after.size ≤ search.maxScanMessages → ∀ limit laterLimit,
          (after.find text search scoring laterLimit).total =
            (before.find text search scoring limit).total +
              messages.countP fun message => isFoundBy text search scoring message.content) ∧
        ((∀ message ∈ messages, isFoundBy text search scoring message.content = true) →
          ∀ limit laterLimit, (before.find text search scoring limit).total ≤
            (after.find text search scoring laterLimit).total) := by
  intro store
  rcases sound_run opening actions with ⟨sound, noneEvicted⟩
  constructor
  · intro session present turn member query prepared
    rcases Live.mem_toList.mp present with ⟨id, found⟩
    exact (sound.consistent id session found).isSome_hit? member prepared search scoring
  · intro id messages now before
    rcases Live.exists_appended sound.named noneEvicted id messages now
      with ⟨after, found, grown, answer⟩
    have soundAfter := (Live.effect_append sound.named id messages now).change.sound sound
    have consistent : after.Consistent := soundAfter.consistent id after found
    have total := consistent.total_find text search scoring
    have totalBefore := (sound.consistent_sessionFor id now).total_find text search scoring
    refine ⟨after, found, answer, grown, ?_, ?_⟩
    · intro within limit laterLimit
      have whole : (before.history ++ messages).length ≤ search.maxScanMessages := by
        rw [← grown, Session.history, List.length_map]
        exact within
      have part : before.history.length ≤ search.maxScanMessages :=
        (List.prefix_append before.history messages).length_le.trans whole
      rw [total, totalBefore, grown, newest_eq_self _ whole, newest_eq_self _ part,
        List.countP_append]
    · intro held limit laterLimit
      rw [total, totalBefore, grown]
      exact countP_newest_le_append _ _ held

/-- Two messages are appended, first to a session that is looked at as a whole, and then past the
number of messages that are looked at, so that an older match is not found any more. -/
theorem search_total_grows_past_scan_limit :
    let opened : Store Archive := ⟨.ofRecords Archive.empty.toList, .empty⟩
    let actions : List Action :=
      [.append "s" [⟨.user, "Paris weather"⟩, ⟨.assistant, "sunny"⟩, ⟨.user, "in Paris"⟩] ⟨1, 0⟩]
    let later : List Message := [⟨.user, "paris"⟩, ⟨.assistant, "a parisian"⟩]
    let narrow : SearchSettings := { maxScanMessages := 2 }
    let before := (opened.run actions).live.sessionFor "s" ⟨2, 0⟩
    (load Archive.empty).1 = .ok opened ∧
      (∀ message ∈ later, isFoundBy "paris" narrow {} message.content = true) ∧
      (before.find "paris" {} {} 0).total = 2 ∧ (before.find "paris" narrow {} 0).total = 1 ∧
      (∃ after,
        ((opened.run actions).append "s" later ⟨2, 0⟩).2.live.sessions["s"]? = some after ∧
        after.size = 5 ∧ (after.find "paris" {} {} 0).total = 4) ∧
      ∃ after,
        ((opened.run actions).append "s" later ⟨2, 0⟩).2.live.sessions["s"]? = some after ∧
        (before.find "paris" narrow {} 0).total ≤ (after.find "paris" narrow {} 0).total := by
  intro opened actions later narrow before
  have opening : (load Archive.empty).1 = .ok opened := rfl
  have held : ∀ message ∈ later, isFoundBy "paris" narrow {} message.content = true := by
    decide
  have total : (before.find "paris" {} {} 0).total = 2 := by decide +kernel
  have size : ((opened.run actions).append "s" later ⟨2, 0⟩).1 = 5 := by decide
  have matching : (later.countP fun message => isFoundBy "paris" {} {} message.content) = 2 := by
    decide
  refine ⟨opening, held, total, by decide +kernel, ?_, ?_⟩
  · rcases (search_total_grows opening actions "paris" {} {}).2 "s" later ⟨2, 0⟩
      with ⟨after, found, answer, -, grows, -⟩
    rw [size] at answer
    have within : after.size ≤ ({} : SearchSettings).maxScanMessages := by
      rw [← answer]
      decide
    refine ⟨after, found, answer.symm, ?_⟩
    rw [grows within 0 0, matching]
    exact congrArg (· + 2) total
  · rcases (search_total_grows opening actions "paris" narrow {}).2 "s" later ⟨2, 0⟩
      with ⟨after, found, -, -, -, neverFalls⟩
    exact ⟨after, found, neverFalls held 0 0⟩

end Store

end ChatMemory
