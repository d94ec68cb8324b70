import FpaPlugin.Lib.Hmap

/-! Walks over a hash map that may change under them. `hmap_at_position` keeps no pointer
between its calls, only a bucket and the number of nodes of that bucket already visited;
`HMAP_FOR_EACH_SAFE` takes its pointer to the next node before the body runs. -/

namespace Hmap

variable {α : Type}

structure Position where
  bucket : Nat
  offset : Nat
  deriving DecidableEq, Repr

/-- The node at the position or, where its bucket has none, the first of the next `buckets`. -/
def scanFrom (m : Hmap α) : Nat → Nat → Nat → Option ((Nat × α) × Position)
  | 0, _, _ => none
  | buckets + 1, bucket, offset =>
      match (m.chain bucket)[offset]? with
      | some node =>
          some (node, if offset + 1 < (m.chain bucket).length then ⟨node.1 &&& m.mask, offset + 1⟩
            else ⟨(node.1 &&& m.mask) + 1, 0⟩)
      | none => scanFrom m buckets (bucket + 1) 0

/-- The position is left where the walk goes on, or at the start once it has ended. -/
def atPosition (m : Hmap α) (position : Position) : Option α × Position :=
  match m.scanFrom (m.mask + 1 - position.bucket) position.bucket position.offset with
  | some (node, next) => (some node.2, next)
  | none => (none, ⟨0, 0⟩)

def nodesFrom (m : Hmap α) : Nat → Nat → Nat → List (Nat × α)
  | 0, _, _ => []
  | buckets + 1, bucket, offset =>
      (m.chain bucket).drop offset ++ (List.range' (bucket + 1) buckets).flatMap m.chain

def valuesFrom (m : Hmap α) (position : Position) : List α :=
  (m.nodesFrom (m.mask + 1 - position.bucket) position.bucket position.offset).map Prod.snd

theorem nodesFrom_zero (m : Hmap α) (buckets bucket : Nat) :
    m.nodesFrom buckets bucket 0 = (List.range' bucket buckets).flatMap m.chain := by
  cases buckets with
  | zero => rfl
  | succ buckets => rw [nodesFrom, List.drop_zero, List.range'_succ, List.flatMap_cons]

theorem valuesFrom_start (m : Hmap α) : m.valuesFrom ⟨0, 0⟩ = m.values := by
  rw [valuesFrom, nodesFrom_zero, values, nodes, List.range_eq_range', Nat.sub_zero]

theorem scanFrom_nodesFrom (m : Hmap α) (buckets : Nat) : ∀ bucket offset,
    bucket + buckets = m.mask + 1 →
      (m.scanFrom buckets bucket offset = none ∧ m.nodesFrom buckets bucket offset = []) ∨
      ∃ node next, m.scanFrom buckets bucket offset = some (node, next) ∧
        m.nodesFrom buckets bucket offset =
          node :: m.nodesFrom (m.mask + 1 - next.bucket) next.bucket next.offset := by
  induction buckets with
  | zero => exact fun _ _ _ => .inl ⟨rfl, rfl⟩
  | succ buckets ih =>
      intro bucket offset last
      rw [scanFrom, nodesFrom]
      cases found : (m.chain bucket)[offset]? with
      | none =>
          have visited := List.getElem?_eq_none_iff.mp found
          rw [List.drop_eq_nil_of_le visited, List.nil_append, ← nodesFrom_zero]
          exact ih (bucket + 1) 0 (by omega)
      | some node =>
          obtain ⟨inside, isNode⟩ := List.getElem?_eq_some_iff.mp found
          have placed := m.placed bucket node (isNode ▸ List.getElem_mem inside)
          refine .inr ⟨node, _, rfl, ?_⟩
          rw [List.drop_eq_getElem_cons inside, isNode, List.cons_append, placed]
          congr 1
          by_cases more : offset + 1 < (m.chain bucket).length
          · have left : m.mask + 1 - bucket = buckets + 1 := by omega
            rw [if_pos more, left, nodesFrom]
          · have left : m.mask + 1 - (bucket + 1) = buckets := by omega
            rw [if_neg more, List.drop_eq_nil_of_le (by omega), List.nil_append, left, nodesFrom_zero]

theorem atPosition_cases (m : Hmap α) (position : Position) :
    (m.atPosition position = (none, ⟨0, 0⟩) ∧ m.valuesFrom position = []) ∨
    ∃ value next, m.atPosition position = (some value, next) ∧
      m.valuesFrom position = value :: m.valuesFrom next := by
  by_cases inside : position.bucket ≤ m.mask + 1
  · have scanned := m.scanFrom_nodesFrom (m.mask + 1 - position.bucket) position.bucket position.offset
      (by omega)
    rcases scanned with ⟨ended, nothing⟩ | ⟨node, next, found, split⟩
    · refine .inl ⟨?_, ?_⟩
      · rw [atPosition, ended]
      · rw [valuesFrom, nothing, List.map_nil]
    · refine .inr ⟨node.2, next, ?_, ?_⟩
      · rw [atPosition, found]
      · rw [valuesFrom, split, List.map_cons, valuesFrom]
  · have past : m.mask + 1 - position.bucket = 0 := by omega
    refine .inl ⟨?_, ?_⟩
    · rw [atPosition, past, scanFrom]
    · rw [valuesFrom, past, nodesFrom, List.map_nil]

/-! `HMAP_FOR_EACH_SAFE` survives a body that frees the node it stands at, and no other one that
is next. -/

section Safe

variable {σ ε : Type} [DecidableEq α]

def next (m : Hmap α) (node : Nat × α) : Option (Nat × α) := (m.nodes.dropWhile (· ≠ node))[1]?

/-- `visits` bounds how often the body runs. A node that has left the map has been freed. -/
def forEachSafe (map : σ → Hmap α) (freed endless : ε) (body : Nat × α → σ → Except ε σ) :
    Nat → Option (Nat × α) → σ → Except ε σ
  | _, none, s => .ok s
  | 0, some _, _ => .error endless
  | visits + 1, some node, s =>
      if node ∈ (map s).nodes then
        match body node s with
        | .error fault => .error fault
        | .ok after => forEachSafe map freed endless body visits ((map s).next node) after
      else .error freed

theorem next_of_split {m : Hmap α} {node : Nat × α} {behind ahead : List (Nat × α)}
    (split : m.nodes = behind ++ node :: ahead) (distinct : m.nodes.Nodup) :
    m.next node = ahead.head? := by
  have apart : ∀ other ∈ behind, (decide (other ≠ node)) = true := by
    intro other member
    have ne : other ≠ node := by
      rintro rfl
      rw [split, List.nodup_append] at distinct
      exact distinct.2.2 _ member _ List.mem_cons_self rfl
    exact decide_eq_true ne
  rw [next, split, List.dropWhile_append_of_pos apart, List.dropWhile_cons_of_neg (by simp)]
  exact List.getElem?_cons_succ.trans List.head?_eq_getElem?.symm

variable {map : σ → Hmap α} {freed endless : ε} {body : Nat × α → σ → Except ε σ}

/-- A body that always frees the node it stands at, and only that, takes the loop to its end. -/
theorem forEachSafe_frees {holds : List (Nat × α) → σ → Prop}
    (nodes : ∀ ahead s, holds ahead s → (map s).nodes = ahead)
    (frees : ∀ node ahead s, holds (node :: ahead) s →
      ∃ after, body node s = .ok after ∧ holds ahead after) :
    ∀ (ahead : List (Nat × α)) (s : σ), ahead.Nodup → holds ahead s →
      ∃ final, forEachSafe map freed endless body ahead.length ahead.head? s = .ok final ∧
        holds [] final := by
  intro ahead
  induction ahead with
  | nil => exact fun s _ held => ⟨s, rfl, held⟩
  | cons node ahead ih =>
      intro s distinct held
      have isNodes : (map s).nodes = [] ++ node :: ahead := nodes _ s held
      obtain ⟨after, ran, left⟩ := frees node ahead s held
      obtain ⟨final, ended, empty⟩ := ih after (List.nodup_cons.mp distinct).2 left
      have isNext : (map s).next node = ahead.head? :=
        next_of_split isNodes (isNodes ▸ distinct)
      refine ⟨final, ?_, empty⟩
      rw [List.length_cons, List.head?_cons, forEachSafe, if_pos (isNodes ▸ List.mem_cons_self), ran,
        isNext]
      exact ended

omit [DecidableEq α] in
theorem split_after {node : Nat × α} {behind ahead left : List (Nat × α)}
    (distinct : (behind ++ node :: ahead).Nodup) (shrunk : left.Sublist (behind ++ node :: ahead))
    (live : ∀ following, ahead.head? = some following → following ∈ left) :
    ∃ newBehind newAhead, left = newBehind ++ newAhead ∧ newBehind.Sublist (behind ++ [node]) ∧
      newAhead.Sublist ahead ∧ newAhead.head? = ahead.head? := by
  have grouped : behind ++ node :: ahead = (behind ++ [node]) ++ ahead := by simp
  rw [grouped] at distinct shrunk
  obtain ⟨newBehind, newAhead, rfl, behindSub, aheadSub⟩ := List.sublist_append_iff.mp shrunk
  refine ⟨newBehind, newAhead, rfl, behindSub, aheadSub, ?_⟩
  obtain ⟨_, aheadDistinct, disjoint⟩ := List.nodup_append.mp distinct
  cases ahead with
  | nil => rw [List.sublist_nil.mp aheadSub]
  | cons following later =>
      have notBehind : following ∉ newBehind := fun member =>
        disjoint _ (behindSub.subset member) _ List.mem_cons_self rfl
      have isAhead := (List.mem_append.mp (live following rfl)).resolve_left notBehind
      cases aheadSub with
      | cons _ skipped => exact ((List.nodup_cons.mp aheadDistinct).1 (skipped.subset isAhead)).elim
      | cons_cons => rfl

/-- The body of a visit that goes well leaves its node out of the map or not; it takes out at
most one. -/
structure FreesOne (map : σ → Hmap α) (body : Nat × α → σ → Except ε σ) : Prop where
  shrinks : ∀ node s after, body node s = .ok after → (map after).nodes.Sublist (map s).nodes
  one : ∀ node s after, body node s = .ok after →
    (map s).nodes.length ≤ (map after).nodes.length + 1

theorem forEachSafe_some {visits : Nat} {node : Nat × α} {s final : σ}
    (ended : forEachSafe map freed endless body visits (some node) s = .ok final) :
    node ∈ (map s).nodes ∧ ∃ earlier after, visits = earlier + 1 ∧ body node s = .ok after ∧
      forEachSafe map freed endless body earlier ((map s).next node) after = .ok final := by
  cases visits with
  | zero => cases ended
  | succ visits =>
      rw [forEachSafe] at ended
      split at ended
      · rename_i member
        cases ran : body node s with
        | error fault =>
            rw [ran] at ended
            cases ended
        | ok after =>
            rw [ran] at ended
            exact ⟨member, visits, after, rfl, rfl, ended⟩
      · cases ended

/-- A loop that empties the map has left no node behind it, and has freed each of the others on
the visit to that node. -/
theorem forEachSafe_emptied (frees : FreesOne map body) (visits : Nat) :
    ∀ (behind ahead : List (Nat × α)) (s final : σ), (map s).nodes = behind ++ ahead →
      (map s).nodes.Nodup →
      forEachSafe map freed endless body visits ahead.head? s = .ok final →
      (map final).nodes = [] →
      behind = [] ∧ ∀ node ∈ ahead, ∃ before after, (map before).nodes.Sublist (map s).nodes ∧
        body node before = .ok after ∧ node ∈ (map before).nodes ∧ node ∉ (map after).nodes := by
  induction visits using Nat.strongRecOn with
  | ind visits ih =>
      intro behind ahead s final split distinct ended empty
      cases ahead with
      | nil =>
          have isFinal : s = final := by simpa [forEachSafe] using ended
          rw [isFinal, empty] at split
          exact ⟨(List.append_eq_nil_iff.mp split.symm).1, by simp⟩
      | cons node ahead =>
          obtain ⟨member, earlier, after, rfl, ran, rest⟩ := forEachSafe_some ended
          rw [next_of_split split distinct] at rest
          have shrunk := frees.shrinks node s after ran
          have live : ∀ following, ahead.head? = some following → following ∈ (map after).nodes := by
            intro following isNext
            rw [isNext] at rest
            exact (forEachSafe_some rest).1
          obtain ⟨newBehind, newAhead, newSplit, _, aheadSub, sameHead⟩ :=
            split_after (split ▸ distinct) (split ▸ shrunk) live
          rw [← sameHead] at rest
          obtain ⟨rfl, visited⟩ := ih earlier (Nat.lt_succ_self _) newBehind newAhead after final
            newSplit (shrunk.nodup distinct) rest empty
          -- The visit has freed at most one node, and nothing is left behind it.
          have counted := frees.one node s after ran
          rw [split, newSplit, List.length_append, List.length_cons, List.nil_append] at counted
          have bound := aheadSub.length_le
          obtain rfl : newAhead = ahead := aheadSub.eq_of_length (by omega)
          refine ⟨List.length_eq_zero_iff.mp (by omega), ?_⟩
          intro other isOther
          rcases List.mem_cons.mp isOther with rfl | later
          · refine ⟨s, after, List.Sublist.refl _, ran, member, ?_⟩
            rw [newSplit, List.nil_append]
            rw [split, List.nodup_append] at distinct
            exact (List.nodup_cons.mp distinct.2.1).1
          · obtain ⟨before, afterwards, sub, freed⟩ := visited other later
            exact ⟨before, afterwards, sub.trans shrunk, freed⟩

/-- The pointer only moves forward: one visit for each node is enough. -/
theorem forEachSafe_ends (frees : FreesOne map body) (different : freed ≠ endless)
    (bodyEnds : ∀ node s, body node s ≠ .error endless) (visits : Nat) :
    ∀ (behind ahead : List (Nat × α)) (s : σ), (map s).nodes = behind ++ ahead →
      (map s).nodes.Nodup → ahead.length ≤ visits →
      forEachSafe map freed endless body visits ahead.head? s ≠ .error endless := by
  induction visits with
  | zero =>
      intro behind ahead s _ _ bound
      rw [List.length_eq_zero_iff.mp (Nat.le_zero.mp bound)]
      rintro ⟨⟩
  | succ visits ih =>
      intro behind ahead s split distinct bound
      cases ahead with
      | nil => rintro ⟨⟩
      | cons node ahead =>
          have member : node ∈ (map s).nodes := split ▸ List.mem_append_right _ List.mem_cons_self
          rw [List.head?_cons, forEachSafe, if_pos member]
          cases ran : body node s with
          | error fault => exact fun ended => bodyEnds node s (ran.trans ended)
          | ok after =>
              have shrunk := frees.shrinks node s after ran
              dsimp only
              rw [next_of_split split distinct]
              rw [List.length_cons] at bound
              by_cases live : ∀ following, ahead.head? = some following →
                  following ∈ (map after).nodes
              · obtain ⟨newBehind, newAhead, newSplit, _, aheadSub, sameHead⟩ :=
                  split_after (split ▸ distinct) (split ▸ shrunk) live
                rw [← sameHead]
                have fewer := aheadSub.length_le
                exact ih newBehind newAhead after newSplit (shrunk.nodup distinct) (by omega)
              · push Not at live
                obtain ⟨following, isNext, gone⟩ := live
                have one : ahead.length ≠ 0 := by
                  intro none
                  rw [List.length_eq_zero_iff.mp none] at isNext
                  cases isNext
                obtain ⟨later, rfl⟩ : ∃ later, visits = later + 1 := ⟨visits - 1, by omega⟩
                rw [isNext, forEachSafe, if_neg gone]
                exact fun same => different (Except.error.inj same)

end Safe

/-! Two searches. `HMAP_FOR_EACH` walks every bucket, `HMAP_FOR_EACH_WITH_HASH` only the one of
the hash and passes over the nodes with another; a record is told by the position where its node
stands, since the map may hold equal values more than once. -/

section Search

variable {β γ δ κ : Type}

def valueAt (m : Hmap α) (position : Position) : Option α :=
  (m.chain position.bucket)[position.offset]?.map Prod.snd

def find (m : Hmap α) (wanted : α → Bool) : Option Position :=
  (List.range (m.mask + 1)).findSome? fun bucket =>
    ((m.chain bucket).findIdx? fun node => wanted node.2).map (Position.mk bucket)

def findWithHash (m : Hmap α) (hash : Nat) (wanted : α → Bool) : Option Position :=
  ((m.chain (hash &&& m.mask)).findIdx? fun node => decide (node.1 = hash) && wanted node.2).map
    (Position.mk (hash &&& m.mask))

def removeAt (m : Hmap α) (position : Position) : Hmap α where
  mask := m.mask
  chain := Function.update m.chain position.bucket
    ((m.chain position.bucket).eraseIdx position.offset)
  placed := by
    intro bucket node member
    by_cases here : bucket = position.bucket
    · subst here
      rw [Function.update_self] at member
      exact m.placed _ node ((List.eraseIdx_sublist _ _).subset member)
    · rw [Function.update_of_ne here] at member
      exact m.placed bucket node member

theorem findSome?_bind {f : β → Option γ} {g : γ → Option δ}
    (total : ∀ index found, f index = some found → ∃ result, g found = some result) (list : List β) :
    (list.findSome? f).bind g = list.findSome? fun index => (f index).bind g := by
  induction list with
  | nil => rfl
  | cons index rest ih =>
      cases found : f index with
      | none => simpa [found] using ih
      | some value =>
          obtain ⟨result, isResult⟩ := total index value found
          simp [found, isResult]

theorem findSome?_only {f : β → Option γ} {list : List β} {index : β} (member : index ∈ list)
    (others : ∀ other ∈ list, other ≠ index → f other = none) : list.findSome? f = f index := by
  cases found : f index with
  | none =>
      rw [List.findSome?_eq_none_iff]
      intro other isOther
      by_cases same : other = index
      · rw [same, found]
      · exact others other isOther same
  | some value =>
      obtain ⟨before, after, split, notBefore⟩ := List.eq_append_cons_of_mem member
      refine List.findSome?_eq_some_iff.mpr ⟨before, index, after, split, found, ?_⟩
      intro other isBefore
      refine others other (split ▸ List.mem_append_left _ isBefore) ?_
      exact ne_of_mem_of_not_mem isBefore notBefore

theorem findIdx?_congr {list : List β} {first second : β → Bool}
    (agree : ∀ index ∈ list, first index = second index) :
    list.findIdx? first = list.findIdx? second := by
  have mapped : list.map first = list.map second := List.map_congr_left agree
  rw [← Function.id_comp first, ← Function.id_comp second, ← List.findIdx?_map, mapped,
    List.findIdx?_map]

theorem valueAt_findIdx? (m : Hmap α) (bucket : Nat) (wanted : Nat × α → Bool) :
    (((m.chain bucket).findIdx? wanted).map (Position.mk bucket)).bind m.valueAt =
      ((m.chain bucket).find? wanted).map Prod.snd := by
  rw [List.find?_eq_bind_findIdx?_getElem?, Option.bind_map, Option.map_bind]
  rfl

theorem valueAt_some {m : Hmap α} {bucket : Nat} {wanted : Nat × α → Bool} {position : Position}
    (found : ((m.chain bucket).findIdx? wanted).map (Position.mk bucket) = some position) :
    ∃ value, m.valueAt position = some value := by
  obtain ⟨offset, isOffset, rfl⟩ := Option.map_eq_some_iff.mp found
  obtain ⟨inside, _⟩ := List.findIdx?_eq_some_iff_getElem.mp isOffset
  exact ⟨_, congrArg (Option.map Prod.snd) (List.getElem?_eq_getElem inside)⟩

theorem find?_values (m : Hmap α) (wanted : α → Bool) :
    m.values.find? wanted = (m.find wanted).bind m.valueAt := by
  rw [find, findSome?_bind fun _ _ => valueAt_some, values, List.find?_map, nodes,
    List.find?_flatMap, List.map_findSome?]
  congr 1
  funext bucket
  exact (m.valueAt_findIdx? bucket _).symm

theorem find?_withHash (m : Hmap α) (hash : Nat) (wanted : α → Bool) :
    (m.withHash hash).find? wanted = (m.findWithHash hash wanted).bind m.valueAt := by
  rw [findWithHash, valueAt_findIdx?, withHash, List.find?_map, List.find?_filter]
  congr 2
  funext node
  simp

theorem remove_eq_removeAt [DecidableEq α] {m : Hmap α} {hash : Nat} {wanted : α → Bool}
    {position : Position} {value : α} (found : m.findWithHash hash wanted = some position)
    (isValue : m.valueAt position = some value) : m.remove hash value = m.removeAt position := by
  obtain ⟨offset, isOffset, rfl⟩ := Option.map_eq_some_iff.mp found
  obtain ⟨inside, isWanted, notBefore⟩ := List.findIdx?_eq_some_iff_getElem.mp isOffset
  obtain ⟨node, isNode, rfl⟩ := Option.map_eq_some_iff.mp isValue
  have atOffset : (m.chain (hash &&& m.mask))[offset] = node :=
    (List.getElem?_eq_some_iff.mp isNode).2
  rw [Bool.and_eq_true, decide_eq_true_eq] at isWanted
  obtain rfl : node.1 = hash := atOffset ▸ isWanted.1
  have first : (m.chain (node.1 &&& m.mask)).idxOf? node = some offset := by
    refine List.idxOf?_eq_some_iff.mpr ⟨inside, atOffset, ?_⟩
    intro earlier before same
    apply notBefore earlier before
    rw [Bool.and_eq_true, decide_eq_true_eq, same]
    exact ⟨rfl, atOffset ▸ isWanted.2⟩
  have erased : (m.chain (node.1 &&& m.mask)).erase (node.1, node.2) =
      (m.chain (node.1 &&& m.mask)).eraseIdx offset := by
    rw [List.erase_eq_eraseIdx, Prod.mk.eta, first]
  rw [remove, removeAt, Hmap.mk.injEq, erased]
  exact ⟨rfl, rfl⟩

theorem Hashed.find_eq {hash : κ → Nat} {key : α → κ} {m : Hmap α} [DecidableEq κ]
    (hashed : m.Hashed hash key) (wanted : κ) :
    m.find (fun value => key value = wanted) =
      m.findWithHash (hash wanted) fun value => key value = wanted := by
  have filed : ∀ bucket, ∀ node ∈ m.chain bucket, node.1 = hash (key node.2) := by
    intro bucket node member
    exact hashed node (Hmap.mem_nodes.mpr (by rwa [m.placed bucket node member]))
  have inside : hash wanted &&& m.mask ∈ List.range (m.mask + 1) :=
    List.mem_range.mpr (Nat.lt_succ_of_le Nat.and_le_right)
  rw [find, findSome?_only inside, findWithHash]
  · congr 1
    apply findIdx?_congr
    intro node member
    by_cases same : key node.2 = wanted
    · have isHash : node.1 = hash wanted := same ▸ filed _ node member
      simp [same, isHash]
    · simp [same]
  · intro bucket _ elsewhere
    rw [Option.map_eq_none_iff, List.findIdx?_eq_none_iff]
    intro node member
    have notWanted : key node.2 ≠ wanted := by
      intro same
      apply elsewhere
      rw [← m.placed bucket node member, filed bucket node member, same]
    exact decide_eq_false notWanted

end Search

end Hmap
