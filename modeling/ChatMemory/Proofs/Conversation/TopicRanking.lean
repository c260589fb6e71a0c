import ChatMemory.Proofs.Conversation.TopicPhrases
import Mathlib.Data.List.Nodup
import Mathlib.Data.String.Basic
import Std.Data.ExtHashMap

/-!
The order of topics. Main statement: topics are the phrases of the newest messages, those that more
messages raise first, then those raised more recently, then those raised earlier in a message; in
whatever order the phrases come out of a hash map, and whatever the other messages are.
-/

namespace ChatMemory

namespace Topic

variable {settings : TopicSettings} {messages recent : List Message}
  {phrases : List String} {phrase first second : String}

/-! ## The order of phrases -/

/-- The newest messages that somebody other than the system wrote and that say something, as many of
them as are looked at. -/
structure IsRecent (settings : TopicSettings) (messages recent : List Message) : Prop where
  latest : recent <:+ messages.filter fun message =>
    !message.role.isSystem && message.hasSubstance
  length : recent.length = min settings.recentMessages
    (messages.countP fun message => !message.role.isSystem && message.hasSubstance)

def timesRaised (settings : TopicSettings) (messages : List Message) (phrase : String) : Nat :=
  messages.countP (Raises settings · phrase)

def newestRaising? (settings : TopicSettings) (messages : List Message) (first second : String) :
    Option Message :=
  messages.reverse.find? fun message =>
    decide (Raises settings message first ∨ Raises settings message second)

/-- The order of topics: by the number of messages, then by the newest message, then by the place in
that message. -/
inductive Precedes (settings : TopicSettings) (messages : List Message) (first second : String) :
    Prop
  | oftener (more : timesRaised settings messages second < timesRaised settings messages first)
  | newer (asOften : timesRaised settings messages first = timesRaised settings messages second)
      (message : Message) (newest : newestRaising? settings messages first second = some message)
      (raises : Raises settings message first) (lacks : ¬Raises settings message second)
  | earlier (asOften : timesRaised settings messages first = timesRaised settings messages second)
      (message : Message) (newest : newestRaising? settings messages first second = some message)
      (raises : Raises settings message second)
      (before : RaisedBefore settings message first second)

structure IsRanking (settings : TopicSettings) (messages : List Message) (ranked : List String) :
    Prop where
  distinct : ranked.Nodup
  mem : ∀ phrase, phrase ∈ ranked ↔ ∃ message ∈ messages, Raises settings message phrase
  ordered : ranked.Pairwise (Precedes settings messages)

theorem RaisedBefore.raises {message : Message}
    (before : RaisedBefore settings message first second) : Raises settings message first :=
  before.imp fun _ found => found.1

theorem RaisedBefore.asymm {message : Message}
    (before : RaisedBefore settings message first second) :
    ¬RaisedBefore settings message second first := by
  rintro ⟨otherPlace, otherRaised, otherBefore⟩
  rcases before with ⟨place, raised, before⟩
  exact Nat.lt_asymm (before otherPlace otherRaised) (otherBefore place raised)

private theorem eq_of_newestRaising? {message other : Message}
    (newest : newestRaising? settings messages first second = some message)
    (found : newestRaising? settings messages second first = some other) : message = other := by
  simp only [newestRaising?, or_comm] at newest found
  rw [newest] at found
  exact Option.some_inj.mp found

theorem Precedes.asymm (precedes : Precedes settings messages first second) :
    ¬Precedes settings messages second first := by
  intro converse
  cases precedes with
  | oftener more =>
      cases converse with
      | oftener less => exact Nat.lt_asymm more less
      | newer asOften => omega
      | earlier asOften => omega
  | newer asOften message newest raises lacks =>
      cases converse with
      | oftener more => omega
      | newer _ _ found _ otherLacks =>
          obtain rfl := eq_of_newestRaising? newest found
          exact otherLacks raises
      | earlier _ _ found _ before =>
          obtain rfl := eq_of_newestRaising? newest found
          exact lacks before.raises
  | earlier asOften message newest _ before =>
      cases converse with
      | oftener more => omega
      | newer _ _ found _ otherLacks =>
          obtain rfl := eq_of_newestRaising? newest found
          exact otherLacks before.raises
      | earlier _ _ found _ otherBefore =>
          obtain rfl := eq_of_newestRaising? newest found
          exact before.asymm otherBefore

theorem IsRanking.unique {ranked others : List String}
    (ranking : IsRanking settings messages ranked)
    (otherRanking : IsRanking settings messages others) : ranked = others := by
  have reordered : ranked.Perm others :=
    (List.perm_ext_iff_of_nodup ranking.distinct otherRanking.distinct).mpr fun phrase =>
      (ranking.mem phrase).trans (otherRanking.mem phrase).symm
  exact reordered.eq_of_pairwise (fun _ _ _ _ before after => absurd after before.asymm)
    ranking.ordered otherRanking.ordered

/-! ## Counting phrases -/

private theorem tally_of_mem {keys : List String} {times : String → Nat} (distinct : keys.Nodup)
    (member : phrase ∈ keys) :
    tally (keys.map fun key => (key, times key)) phrase =
      keys.map fun key => (key, times key + if key = phrase then 1 else 0) := by
  induction keys with
  | nil => cases member
  | cons key rest induction =>
      rcases List.nodup_cons.mp distinct with ⟨new, restDistinct⟩
      rw [List.map_cons, List.map_cons, tally]
      by_cases same : key = phrase
      · subst same
        have others : (rest.map fun other => (other, times other + if other = key then 1 else 0)) =
            rest.map fun other => (other, times other) :=
          List.map_congr_left fun other listed => by
            rw [if_neg (ne_of_mem_of_not_mem listed new), Nat.add_zero]
        rw [if_pos rfl, if_pos rfl, others]
      · have later := (List.mem_cons.mp member).resolve_left (Ne.symm same)
        rw [if_neg same, if_neg same, induction restDistinct later, Nat.add_zero]

private theorem tally_of_notMem {keys : List String} {times : String → Nat} (new : phrase ∉ keys) :
    tally (keys.map fun key => (key, times key)) phrase =
      (keys.map fun key => (key, times key)) ++ [(phrase, 1)] := by
  induction keys with
  | nil => rfl
  | cons key rest induction =>
      rcases List.ne_and_not_mem_of_not_mem_cons new with ⟨different, newInRest⟩
      rw [List.map_cons, tally, if_neg different.symm, induction newInRest, List.cons_append]

private theorem count_concat (phrases : List String) (phrase key : String) :
    (phrases ++ [phrase]).count key = phrases.count key + if key = phrase then 1 else 0 := by
  simp only [List.count_append, List.count_singleton, beq_iff_eq, @eq_comm _ phrase key]

theorem foldl_tally (phrases : List String) :
    phrases.foldl tally [] =
      phrases.eraseDups.map fun phrase => (phrase, phrases.count phrase) := by
  induction phrases using List.reverseRecOn with
  | nil => rfl
  | append_singleton phrases phrase induction =>
      rw [List.foldl_concat, induction, eraseDups_concat]
      split
      · rename_i known
        rw [List.contains_iff_mem, ← List.mem_eraseDups] at known
        rw [tally_of_mem (nodup_eraseDups phrases) known]
        simp only [count_concat]
      · rename_i new
        rw [List.contains_iff_mem] at new
        have others : (phrases.eraseDups.map fun key => (key, (phrases ++ [phrase]).count key)) =
            phrases.eraseDups.map fun key => (key, phrases.count key) :=
          List.map_congr_left fun key listed => by
            rw [count_concat, if_neg (ne_of_mem_of_not_mem (List.mem_eraseDups.mp listed) new),
              Nat.add_zero]
        rw [tally_of_notMem (by rwa [List.mem_eraseDups]), List.map_append, others, List.map_cons,
          count_concat, List.count_eq_zero_of_not_mem new, if_pos rfl, List.map_nil]

private theorem count_flatMap_phrasesOf (settings : TopicSettings) (messages : List Message)
    (phrase : String) :
    (messages.flatMap (phrasesOf settings)).count phrase =
      timesRaised settings messages phrase := by
  induction messages with
  | nil => rfl
  | cons message rest induction =>
      rw [timesRaised] at induction ⊢
      rw [List.flatMap_cons, List.count_append, induction, (nodup_phrasesOf settings message).count,
        List.countP_cons, Nat.add_comm]
      simp only [mem_phrasesOf, decide_eq_true_eq]

/-- What is met first, in messages that are given from the newest one on, is raised first in the
newest message that raises either phrase. -/
theorem exists_newest_of_idxOf_lt {newestFirst : List Message}
    (less : (newestFirst.flatMap (phrasesOf settings)).idxOf first <
      (newestFirst.flatMap (phrasesOf settings)).idxOf second) :
    ∃ message,
      (newestFirst.find? fun message =>
        decide (Raises settings message first ∨ Raises settings message second)) = some message ∧
      Raises settings message first ∧
      (Raises settings message second → RaisedBefore settings message first second) := by
  induction newestFirst with
  | nil => exact absurd less (Nat.lt_irrefl 0)
  | cons message rest induction =>
      rw [List.flatMap_cons, List.idxOf_append, List.idxOf_append] at less
      by_cases firstHere : first ∈ phrasesOf settings message
      · have raises := mem_phrasesOf.mp firstHere
        refine ⟨message, List.find?_cons_of_pos (decide_eq_true (.inl raises)), raises, ?_⟩
        intro secondRaises
        have secondHere := mem_phrasesOf.mpr secondRaises
        rw [if_pos firstHere, if_pos secondHere] at less
        exact rel_of_idxOf_lt (pairwise_phrasesOf settings message) secondHere less
      · have secondAbsent : second ∉ phrasesOf settings message := by
          intro secondHere
          have bound := List.idxOf_lt_length_iff.mpr secondHere
          rw [if_neg firstHere, if_pos secondHere] at less
          omega
        rw [if_neg firstHere, if_neg secondAbsent] at less
        rw [mem_phrasesOf] at firstHere secondAbsent
        rw [List.find?_cons_of_neg (by simp [firstHere, secondAbsent])]
        exact induction (Nat.lt_of_add_lt_add_right less)

/-! ## A hash map of phrases -/

/-- Counts a phrase once more in the map. A new phrase gets the number of known ones as its rank. -/
def note (seen : Std.ExtHashMap String (Nat × Nat)) (phrase : String) :
    Std.ExtHashMap String (Nat × Nat) :=
  let entry := seen[phrase]?.getD (0, seen.size)
  seen.insert phrase (entry.1 + 1, entry.2)

def seenIn (settings : TopicSettings) (messages : List Message) :
    Std.ExtHashMap String (Nat × Nat) :=
  (messages.reverse.flatMap (phrasesOf settings)).foldl note ∅

structure IsListing (seen : Std.ExtHashMap String (Nat × Nat))
    (entries : List (String × Nat × Nat)) : Prop where
  distinct : entries.Nodup
  mem : ∀ phrase times rank,
    (phrase, times, rank) ∈ entries ↔ seen[phrase]? = some (times, rank)

/-- More frequent phrases first, those of a lower rank first among the equally frequent ones. -/
def mayPrecede (first second : String × Nat × Nat) : Bool :=
  if first.2.1 = second.2.1 then decide (first.2.2 ≤ second.2.2)
  else decide (second.2.1 < first.2.1)

def ofEntries (settings : TopicSettings) (entries : List (String × Nat × Nat)) : List String :=
  ((entries.mergeSort mayPrecede).take settings.maxTopics).map fun (phrase, _) => display phrase

private theorem foldl_note (phrases : List String) :
    (phrases.foldl note ∅).size = phrases.eraseDups.length ∧
      ∀ key, (phrases.foldl note ∅)[key]? =
        if key ∈ phrases then some (phrases.count key, phrases.eraseDups.idxOf key) else none := by
  induction phrases using List.reverseRecOn with
  | nil => exact ⟨rfl, fun _ => by simp⟩
  | append_singleton phrases phrase induction =>
      rcases induction with ⟨size, entries⟩
      have isKnown : phrase ∈ phrases.foldl note ∅ ↔ phrase ∈ phrases := by
        rw [Std.ExtHashMap.mem_iff_isSome_getElem?, entries]
        split <;> simpa
      rw [List.foldl_concat, note, entries phrase, size]
      refine ⟨?_, fun key => ?_⟩
      · rw [Std.ExtHashMap.size_insert, eraseDups_concat, size]
        simp only [isKnown, List.contains_iff_mem]
        split
        · rfl
        · rw [List.length_append, List.length_singleton]
      · rw [Std.ExtHashMap.getElem?_insert, entries key, count_concat]
        by_cases same : phrase = key
        · subst same
          by_cases known : phrase ∈ phrases
          · simp [known, idxOf_eraseDups_concat]
          · simp [known, eraseDups_concat, List.idxOf_append, List.count_eq_zero_of_not_mem]
        · by_cases listed : key ∈ phrases
          · simp [same, Ne.symm same, listed, idxOf_eraseDups_concat]
          · simp [same, Ne.symm same, listed]

def entriesByRank (phrases : List String) : List (String × Nat × Nat) :=
  (phrases.foldl tally []).zipIdx.map fun counted => (counted.1.1, counted.1.2, counted.2)

private theorem mem_entriesByRank {times rank : Nat} :
    (phrase, times, rank) ∈ entriesByRank phrases ↔
      phrase ∈ phrases ∧ times = phrases.count phrase ∧
        rank = phrases.eraseDups.idxOf phrase := by
  rw [entriesByRank, List.mem_map, foldl_tally]
  constructor
  · rintro ⟨⟨⟨key, count⟩, index⟩, listed, same⟩
    cases same
    rw [List.mem_zipIdx_iff_getElem?, List.getElem?_map, Option.map_eq_some_iff] at listed
    rcases listed with ⟨key, found, same⟩
    cases same
    rcases getElem?_eraseDups_eq_some_iff.mp found with ⟨member, isRank⟩
    exact ⟨member, rfl, isRank⟩
  · rintro ⟨member, rfl, isRank⟩
    refine ⟨((phrase, phrases.count phrase), rank), ?_, rfl⟩
    rw [List.mem_zipIdx_iff_getElem?, List.getElem?_map,
      getElem?_eraseDups_eq_some_iff.mpr ⟨member, isRank⟩]
    rfl

@[simp] private theorem map_entriesByRank (phrases : List String) :
    (entriesByRank phrases).map (·.1) = phrases.eraseDups := by
  rw [entriesByRank, List.map_map]
  calc (phrases.foldl tally []).zipIdx.map (fun counted => counted.1.1)
      = ((phrases.foldl tally []).zipIdx.map Prod.fst).map (·.1) := by rw [List.map_map]; rfl
    _ = (phrases.foldl tally []).map (·.1) := by rw [List.zipIdx_map_fst]
    _ = phrases.eraseDups := by rw [foldl_tally, List.map_map]; exact List.map_id _

private theorem isListing_entriesByRank (phrases : List String) :
    IsListing (phrases.foldl note ∅) (entriesByRank phrases) where
  distinct := by
    apply List.Nodup.of_map (·.1)
    rw [map_entriesByRank]
    exact nodup_eraseDups phrases
  mem phrase times rank := by
    rw [mem_entriesByRank, (foldl_note phrases).2]
    split
    · rename_i listed
      simp [listed, eq_comm]
    · rename_i absent
      simp [absent]

theorem mayPrecede_trans (first second third : String × Nat × Nat)
    (before : mayPrecede first second = true) (after : mayPrecede second third = true) :
    mayPrecede first third = true := by
  simp only [mayPrecede] at *
  split_ifs at * <;> simp only [decide_eq_true_eq] at * <;> omega

theorem mayPrecede_total (first second : String × Nat × Nat) :
    (mayPrecede first second || mayPrecede second first) = true := by
  simp only [mayPrecede, Bool.or_eq_true]
  split_ifs <;> simp only [decide_eq_true_eq] <;> omega

private theorem sort_entriesByRank (phrases : List String) :
    ((entriesByRank phrases).mergeSort mayPrecede).map (·.1) =
      ((phrases.foldl tally []).mergeSort fun first second =>
        decide (second.2 ≤ first.2)).map (·.1) := by
  have alike : ∀ first ∈ (phrases.foldl tally []).zipIdx,
      ∀ second ∈ (phrases.foldl tally []).zipIdx,
      List.zipIdxLE (fun first second => decide (second.2 ≤ first.2)) first second =
        mayPrecede (first.1.1, first.1.2, first.2) (second.1.1, second.1.2, second.2) := by
    intro first _ second _
    simp only [List.zipIdxLE, mayPrecede, decide_eq_true_eq]
    split_ifs <;> simp <;> omega
  rw [entriesByRank, ← List.map_mergeSort alike,
    ← List.mergeSort_zipIdx (l := phrases.foldl tally []), List.map_map, List.map_map]
  rfl

private theorem mergeSort_eq_of_isListing {entries : List (String × Nat × Nat)}
    (listing : IsListing (phrases.foldl note ∅) entries) :
    entries.mergeSort mayPrecede = (entriesByRank phrases).mergeSort mayPrecede := by
  have byRank := isListing_entriesByRank phrases
  have reordered : entries.Perm (entriesByRank phrases) :=
    (List.perm_ext_iff_of_nodup listing.distinct byRank.distinct).mpr fun entry =>
      (listing.mem _ _ _).trans (byRank.mem _ _ _).symm
  have sorted := List.pairwise_mergeSort mayPrecede_trans mayPrecede_total
  refine ((List.mergeSort_perm entries mayPrecede).trans (reordered.trans
    (List.mergeSort_perm (entriesByRank phrases) mayPrecede).symm)).eq_of_pairwise ?_
      (sorted entries) (sorted (entriesByRank phrases))
  rintro ⟨first, times, rank⟩ ⟨second, otherTimes, otherRank⟩ firstMember secondMember before after
  rw [List.mem_mergeSort] at firstMember secondMember
  rw [reordered.mem_iff, mem_entriesByRank] at firstMember
  rw [mem_entriesByRank] at secondMember
  rcases firstMember with ⟨firstListed, rfl, rfl⟩
  rcases secondMember with ⟨secondListed, rfl, rfl⟩
  rw [← List.mem_eraseDups] at firstListed
  have sameRank : phrases.eraseDups.idxOf first = phrases.eraseDups.idxOf second := by
    simp only [mayPrecede] at before after
    split_ifs at before after <;> simp only [decide_eq_true_eq] at before after <;> omega
  rw [(List.idxOf_inj firstListed).mp sameRank]

/-! ## The ranking -/

def ranked (settings : TopicSettings) (messages : List Message) : List String :=
  ((entriesByRank (messages.reverse.flatMap (phrasesOf settings))).mergeSort mayPrecede).map (·.1)

theorem ranked_perm (settings : TopicSettings) (messages : List Message) :
    (ranked settings messages).Perm
      (messages.reverse.flatMap (phrasesOf settings)).eraseDups := by
  rw [ranked, ← map_entriesByRank]
  exact (List.mergeSort_perm _ _).map _

private theorem precedes_of_mayPrecede {times rank otherTimes otherRank : Nat}
    (different : first ≠ second) (firstMember : (first, times, rank) ∈
      entriesByRank (messages.reverse.flatMap (phrasesOf settings)))
    (secondMember : (second, otherTimes, otherRank) ∈
      entriesByRank (messages.reverse.flatMap (phrasesOf settings)))
    (before : mayPrecede (first, times, rank) (second, otherTimes, otherRank) = true) :
    Precedes settings messages first second := by
  rcases mem_entriesByRank.mp firstMember with ⟨firstListed, firstTimes, firstRank⟩
  rcases mem_entriesByRank.mp secondMember with ⟨secondListed, secondTimes, secondRank⟩
  rw [count_flatMap_phrasesOf, timesRaised, List.countP_reverse, ← timesRaised]
    at firstTimes secondTimes
  rw [mayPrecede] at before
  split at before
  · rename_i asOften
    rw [← List.mem_eraseDups] at firstListed secondListed
    have unequal := (List.idxOf_inj firstListed).not.mpr different
    have atMost : rank ≤ otherRank := of_decide_eq_true before
    rw [firstRank, secondRank] at atMost
    have met := rel_of_idxOf_lt (pairwise_idxOf_eraseDups _) secondListed
      (Nat.lt_of_le_of_ne atMost unequal)
    have asOften : timesRaised settings messages first = timesRaised settings messages second := by
      rw [← firstTimes, ← secondTimes]
      exact asOften
    rcases exists_newest_of_idxOf_lt met with ⟨message, newest, raises, sooner⟩
    by_cases secondRaises : Raises settings message second
    · exact .earlier asOften message newest secondRaises (sooner secondRaises)
    · exact .newer asOften message newest raises secondRaises
  · apply Precedes.oftener
    rw [← firstTimes, ← secondTimes]
    exact of_decide_eq_true before

private theorem isRanking_ranked (settings : TopicSettings) (messages : List Message) :
    IsRanking settings messages (ranked settings messages) where
  distinct := (ranked_perm settings messages).nodup_iff.mpr (nodup_eraseDups _)
  mem phrase := by
    rw [(ranked_perm settings messages).mem_iff, List.mem_eraseDups, List.mem_flatMap]
    simp only [List.mem_reverse, mem_phrasesOf]
  ordered := by
    have distinct := (ranked_perm settings messages).nodup_iff.mpr (nodup_eraseDups _)
    rw [ranked, List.Nodup, List.pairwise_map] at distinct
    rw [ranked, List.pairwise_map]
    have sorted := List.pairwise_mergeSort mayPrecede_trans mayPrecede_total
      (entriesByRank (messages.reverse.flatMap (phrasesOf settings)))
    refine (sorted.and distinct).imp_of_mem ?_
    rintro ⟨first, times, rank⟩ ⟨second, otherTimes, otherRank⟩ firstMember secondMember
      ⟨before, different⟩
    rw [List.mem_mergeSort] at firstMember secondMember
    exact precedes_of_mayPrecede different firstMember secondMember before

/-! ## Topics -/

private theorem isRecent_iff :
    IsRecent settings messages recent ↔ sources settings messages = recent.reverse := by
  have size := List.countP_eq_length_filter (l := messages)
    (p := fun message => !message.role.isSystem && message.hasSubstance)
  rw [sources, List.filter_reverse]
  constructor
  · rintro ⟨latest, length⟩
    have begins := List.prefix_iff_eq_take.mp (List.reverse_prefix.mpr latest)
    rw [begins, List.length_reverse, length, size, ← List.length_reverse, ← List.take_eq_take_min]
  · intro same
    have begins : recent.reverse <+: _ := same ▸ List.take_prefix _ _
    refine ⟨List.reverse_prefix.mp begins, ?_⟩
    rw [← List.length_reverse, ← same, List.length_take, List.length_reverse, size]

private theorem ofMessages_of_isRecent (isRecent : IsRecent settings messages recent) :
    ofMessages settings messages =
      ((ranked settings recent).take settings.maxTopics).map display := by
  rw [ranked, sort_entriesByRank, ← isRecent_iff.mp isRecent, ← List.map_take, List.map_map]
  rfl

/-- The topics of a conversation are the first phrases of the only ranking of what its newest
messages raise; they do not depend on other messages, nor on the order in which a hash map lists the
phrases. -/
theorem topics_follow_ranking {settings : TopicSettings} (positive : 0 < settings.maxWords)
    (messages : List Message) :
    (∃ recent, IsRecent settings messages recent) ∧
    ∀ recent, IsRecent settings messages recent →
      (∃ ranked, IsRanking settings recent ranked) ∧
      (∀ ranked, IsRanking settings recent ranked →
        ofMessages settings messages = (ranked.take settings.maxTopics).map display ∧
        ∀ phrase ∈ ranked, IsPhrase settings phrase) ∧
      (∀ others, IsRecent settings others recent →
        ofMessages settings others = ofMessages settings messages) ∧
      (∃ entries, IsListing (seenIn settings recent) entries) ∧
      ∀ entries, IsListing (seenIn settings recent) entries →
        ofEntries settings entries = ofMessages settings messages := by
  refine ⟨⟨(sources settings messages).reverse, isRecent_iff.mpr (List.reverse_reverse _).symm⟩,
    fun recent isRecent => ⟨⟨_, isRanking_ranked settings recent⟩, ?_, ?_,
      ⟨_, isListing_entriesByRank _⟩, ?_⟩⟩
  · intro others ranking
    refine ⟨?_, fun phrase member => ?_⟩
    · rw [ofMessages_of_isRecent isRecent, (isRanking_ranked settings recent).unique ranking]
    · rcases (ranking.mem phrase).mp member with ⟨message, -, raises⟩
      exact raises.isPhrase positive
  · intro others otherRecent
    rw [ofMessages_of_isRecent isRecent, ofMessages_of_isRecent otherRecent]
  · intro entries listing
    rw [ofMessages_of_isRecent isRecent, ofEntries, mergeSort_eq_of_isListing listing, ranked,
      ← List.map_take, List.map_map]
    rfl

/-- Only the last three messages of somebody other than the system count. -/
theorem topics_follow_ranking_beside_older_message :
    let settings : TopicSettings := { recentMessages := 3 }
    let recent : List Message :=
      [⟨.user, "Tell me about borrow checker errors"⟩,
        ⟨.assistant, "Lifetimes are the usual cause"⟩,
        ⟨.user, "Still confused about borrow checker errors"⟩]
    let messages := ⟨.user, "How to bake bread?"⟩ :: recent ++ [⟨.system, "Be terse"⟩]
    0 < settings.maxWords ∧ IsRecent settings messages recent ∧
    IsRecent settings recent recent ∧
    (∃ ranked, IsRanking settings recent ranked ∧
      ofMessages settings messages = (ranked.take 3).map display) ∧
    ofMessages settings recent = ofMessages settings messages ∧
    ofMessages settings messages = ["Borrow checker errors", "Lifetimes", "Usual"] := by
  intro settings recent messages
  have positive : 0 < settings.maxWords := by decide
  have isRecent : IsRecent settings messages recent := isRecent_iff.mpr (by decide)
  have recentOnly : IsRecent settings recent recent := isRecent_iff.mpr (by decide)
  have counted : counts settings messages =
      [("borrow checker errors", 2), ("lifetimes", 1), ("usual", 1), ("cause", 1)] := by
    decide
  rcases (topics_follow_ranking positive messages).2 recent isRecent with
    ⟨⟨ranked, ranking⟩, topics, others, -⟩
  refine ⟨positive, isRecent, recentOnly, ⟨ranked, ranking, (topics ranked ranking).1⟩,
    others recent recentOnly, ?_⟩
  rw [ofMessages, counted, List.mergeSort_of_pairwise (by decide)]
  decide

end Topic

end ChatMemory
