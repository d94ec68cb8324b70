import FpaPlugin.Lib.Hmap

/-! The same hash map at the level of its memory: bucket heads, and a `next` and a
`hash` field inside every node. Linking a node that is already linked is possible
here and closes its chain into a loop, so walks carry fuel. A map whose nodes were
each linked once represents an `Hmap`, and the operations commute with that view. -/

structure LinkedHmap (ν : Type) where
  mask : Nat
  n : Nat
  bucket : Nat → Option ν
  next : ν → Option ν
  hash : ν → Nat

namespace LinkedHmap

variable {ν : Type}

/-- No walk of `resize` is longer: it can visit every node once through the old
chains and once more through the chains it is building. -/
def walkBound (m : LinkedHmap ν) : Nat := 2 * m.n + 2

def firstInBucket (m : LinkedHmap ν) (hash : Nat) : Option ν := m.bucket (hash &&& m.mask)

def ChainFrom (next : ν → Option ν) : Option ν → List ν → Prop
  | none, [] => True
  | some node, first :: rest => node = first ∧ ChainFrom next (next node) rest
  | _, _ => False

structure Represents (m : LinkedHmap ν) (view : Hmap ν) : Prop where
  mask : m.mask = view.mask
  counted : m.n = view.count
  chained : ∀ bucket, ChainFrom m.next (m.bucket bucket) ((view.chain bucket).map Prod.snd)
  hashed : ∀ node ∈ view.nodes, m.hash node.2 = node.1
  once : view.values.Nodup

theorem ChainFrom.congr {next other : ν → Option ν} :
    ∀ {pointer : Option ν} {chain : List ν}, ChainFrom next pointer chain →
      (∀ node ∈ chain, other node = next node) → ChainFrom other pointer chain := by
  intro pointer chain
  induction chain generalizing pointer with
  | nil =>
      intro chained _
      cases pointer with
      | none => trivial
      | some node => exact chained
  | cons first rest ih =>
      intro chained agree
      cases pointer with
      | none => exact chained
      | some node =>
          obtain ⟨same, tail⟩ := chained
          subst same
          refine ⟨rfl, ?_⟩
          rw [agree node (by simp)]
          exact ih tail fun later member => agree later (List.mem_cons_of_mem _ member)

theorem mem_values_of_chain {view : Hmap ν} {bucket : Nat} {node : ν}
    (member : node ∈ (view.chain bucket).map Prod.snd) : node ∈ view.values := by
  obtain ⟨entry, inChain, same⟩ := List.mem_map.mp member
  have inBucket := view.placed bucket entry inChain
  subst same
  exact List.mem_map.mpr ⟨entry, Hmap.mem_nodes.mpr (inBucket ▸ inChain), rfl⟩

theorem Represents.empty (mask : Nat) (next : ν → Option ν) (hash : ν → Nat) :
    Represents ⟨mask, 0, fun _ => none, next, hash⟩ (Hmap.empty mask) where
  mask := rfl
  counted := by simp [Hmap.count]
  chained := fun _ => trivial
  hashed := by simp
  once := by simp [Hmap.values]

theorem chain_length_le_count (view : Hmap ν) (bucket : Nat) (inside : bucket ≤ view.mask) :
    (view.chain bucket).length ≤ view.count := by
  have member : view.chain bucket ∈ (List.range (view.mask + 1)).map view.chain :=
    List.mem_map.mpr ⟨bucket, List.mem_range.mpr (by omega), rfl⟩
  rw [Hmap.count, Hmap.nodes, List.flatMap_def]
  exact (List.sublist_flatten_of_mem member).length_le

theorem Represents.firstInBucket {m : LinkedHmap ν} {view : Hmap ν} (rep : Represents m view)
    (hash : Nat) : m.firstInBucket hash = view.firstInBucket hash := by
  have chained := rep.chained (hash &&& view.mask)
  rw [LinkedHmap.firstInBucket, Hmap.firstInBucket, Hmap.inBucket, rep.mask]
  cases pointer : m.bucket (hash &&& view.mask) with
  | none =>
      rw [pointer] at chained
      cases chain : (view.chain (hash &&& view.mask)).map Prod.snd with
      | nil => rfl
      | cons first rest =>
          rw [chain] at chained
          exact chained.elim
  | some node =>
      rw [pointer] at chained
      cases chain : (view.chain (hash &&& view.mask)).map Prod.snd with
      | nil =>
          rw [chain] at chained
          exact chained.elim
      | cons first rest =>
          rw [chain] at chained
          rw [chained.1, List.head?_cons]

variable [DecidableEq ν]

def insertFast (m : LinkedHmap ν) (node : ν) (hash : Nat) : LinkedHmap ν where
  mask := m.mask
  n := m.n + 1
  bucket := Function.update m.bucket (hash &&& m.mask) (some node)
  next := Function.update m.next node (m.bucket (hash &&& m.mask))
  hash := Function.update m.hash node hash

/-- The inner loop of `resize`: `next` is read before the node is linked into the
new buckets. `none` when the fuel runs out. -/
def moveChain : Nat → LinkedHmap ν → Option ν → Option (LinkedHmap ν)
  | _, moved, none => some moved
  | 0, _, some _ => none
  | fuel + 1, moved, some node =>
      moveChain fuel (moved.insertFast node (moved.hash node)) (moved.next node)

def moveBuckets (fuel : Nat) (bucket : Nat → Option ν) :
    List Nat → LinkedHmap ν → Option (LinkedHmap ν)
  | [], moved => some moved
  | index :: rest, moved =>
      match moveChain fuel moved (bucket index) with
      | none => none
      | some next => moveBuckets fuel bucket rest next

def resize (m : LinkedHmap ν) (mask : Nat) : Option (LinkedHmap ν) :=
  moveBuckets m.walkBound m.bucket (List.range (m.mask + 1))
    { m with mask := mask, n := 0, bucket := fun _ => none }

def expand (growth : HmapGrowth) (m : LinkedHmap ν) : Option (LinkedHmap ν) :=
  if m.mask < growth.calcMask m.n then m.resize (growth.calcMask m.n) else some m

def insert (growth : HmapGrowth) (m : LinkedHmap ν) (node : ν) (hash : Nat) :
    Option (LinkedHmap ν) :=
  let grown := m.insertFast node hash
  if grown.mask < grown.n / 2 then grown.expand growth else some grown

theorem Represents.insertFast {m : LinkedHmap ν} {view : Hmap ν} (rep : Represents m view)
    {node : ν} (fresh : node ∉ view.values) (hash : Nat) :
    Represents (m.insertFast node hash) (view.insertFast hash node) where
  mask := rep.mask
  counted := by
    have grown := (Hmap.nodes_insertFast_perm view hash node).length_eq
    simp only [Hmap.count, LinkedHmap.insertFast, rep.counted] at grown ⊢
    rw [grown, List.length_cons]
  chained := by
    intro bucket
    have elsewhere : ChainFrom (m.insertFast node hash).next (m.bucket bucket)
        ((view.chain bucket).map Prod.snd) := by
      refine (rep.chained bucket).congr fun other member => ?_
      exact Function.update_of_ne (fun same => fresh (by rw [← same]; exact mem_values_of_chain member)) _ _
    rw [Hmap.chain_insertFast, ← rep.mask]
    by_cases here : hash &&& m.mask = bucket
    · subst here
      rw [if_pos rfl]
      simp only [LinkedHmap.insertFast, Function.update_self, List.map_cons, ChainFrom, true_and]
      exact elsewhere
    · rw [if_neg here]
      simp only [LinkedHmap.insertFast, Function.update_of_ne (Ne.symm here)]
      exact elsewhere
  hashed := by
    intro entry member
    rw [(Hmap.nodes_insertFast_perm view hash node).mem_iff, List.mem_cons] at member
    rcases member with same | old
    · subst same
      simp [LinkedHmap.insertFast]
    · have different : entry.2 ≠ node := fun same =>
        fresh (List.mem_map.mpr ⟨entry, old, same⟩)
      simp only [LinkedHmap.insertFast, Function.update_of_ne different]
      exact rep.hashed entry old
  once := by
    have perm := (Hmap.nodes_insertFast_perm view hash node).map Prod.snd
    exact perm.nodup_iff.mpr (List.nodup_cons.mpr ⟨fresh, rep.once⟩)

theorem moveChain_represents {entries : List (Nat × ν)} :
    ∀ {fuel : Nat} {moved : LinkedHmap ν} {pointer : Option ν} {view : Hmap ν},
      Represents moved view → ChainFrom moved.next pointer (entries.map Prod.snd) →
      (∀ entry ∈ entries, moved.hash entry.2 = entry.1) →
      (entries.map Prod.snd ++ view.values).Nodup → entries.length ≤ fuel →
      ∃ after, moveChain fuel moved pointer = some after ∧
        Represents after
          (entries.foldl (fun built entry => built.insertFast entry.1 entry.2) view) ∧
        after.hash = moved.hash ∧
        ∀ node, node ∉ entries.map Prod.snd → after.next node = moved.next node := by
  induction entries with
  | nil =>
      intro fuel moved pointer view rep chained _ _ _
      cases pointer with
      | some node => exact chained.elim
      | none =>
          refine ⟨moved, ?_, rep, rfl, fun _ _ => rfl⟩
          cases fuel <;> rfl
  | cons entry rest ih =>
      intro fuel moved pointer view rep chained hashes unique enough
      cases pointer with
      | none => exact chained.elim
      | some node =>
          obtain ⟨same, tail⟩ := chained
          cases fuel with
          | zero => simp at enough
          | succ fuel =>
              have hashEq : moved.hash node = entry.1 := by
                rw [same]
                exact hashes entry (by simp)
              simp only [List.map_cons, List.cons_append, List.nodup_cons, List.mem_append,
                not_or] at unique
              obtain ⟨⟨notRest, notView⟩, uniqueTail⟩ := unique
              have fresh : node ∉ view.values := by rw [same]; exact notView
              have linked := rep.insertFast fresh entry.1
              have sameHash : (moved.insertFast node entry.1).hash = moved.hash := by
                simp [LinkedHmap.insertFast, ← hashEq]
              have tailKept : ChainFrom (moved.insertFast node entry.1).next (moved.next node)
                  (rest.map Prod.snd) := by
                refine tail.congr fun other member => Function.update_of_ne ?_ _ _
                rintro rfl
                exact notRest (same ▸ member)
              have uniqueNext : (rest.map Prod.snd ++
                  (view.insertFast entry.1 node).values).Nodup := by
                have perm := (Hmap.nodes_insertFast_perm view entry.1 node).map Prod.snd
                refine (List.Perm.append_left _ perm).nodup_iff.mpr ?_
                rw [List.map_cons]
                refine List.perm_middle.nodup_iff.mpr (List.nodup_cons.mpr ⟨?_, uniqueTail⟩)
                rw [List.mem_append, not_or]
                exact ⟨same ▸ notRest, fresh⟩
              obtain ⟨after, finished, repAfter, hashAfter, frame⟩ := ih linked tailKept
                (fun later member => by
                  rw [sameHash]
                  exact hashes later (List.mem_cons_of_mem _ member))
                uniqueNext (by simpa using enough)
              refine ⟨after, ?_, ?_, hashAfter.trans sameHash, ?_⟩
              · rw [moveChain, hashEq]
                exact finished
              · rw [List.foldl_cons, ← same]
                exact repAfter
              · intro other outside
                simp only [List.map_cons, List.mem_cons, not_or] at outside
                rw [frame other outside.2]
                exact Function.update_of_ne (fun equal => outside.1 (equal.trans same)) _ _

theorem moveBuckets_represents (fuel : Nat) (bucket : Nat → Option ν)
    (chain : Nat → List (Nat × ν)) :
    ∀ (indices : List Nat) {moved : LinkedHmap ν} {view : Hmap ν},
      Represents moved view →
      (∀ index ∈ indices, ChainFrom moved.next (bucket index) ((chain index).map Prod.snd)) →
      (∀ index ∈ indices, ∀ entry ∈ chain index, moved.hash entry.2 = entry.1) →
      ((indices.flatMap chain).map Prod.snd ++ view.values).Nodup →
      (∀ index ∈ indices, (chain index).length ≤ fuel) →
      ∃ after, moveBuckets fuel bucket indices moved = some after ∧
        Represents after
          ((indices.flatMap chain).foldl (fun built entry => built.insertFast entry.1 entry.2)
            view) := by
  intro indices
  induction indices with
  | nil =>
      intro moved view rep _ _ _ _
      exact ⟨moved, rfl, rep⟩
  | cons index rest ih =>
      intro moved view rep chained hashes unique enough
      simp only [List.flatMap_cons, List.map_append, List.append_assoc] at unique
      have uniqueHere : ((chain index).map Prod.snd ++ view.values).Nodup := by
        refine unique.sublist ?_
        exact (List.sublist_append_right _ _).append_left _
      obtain ⟨middle, moves, repMiddle, hashMiddle, frame⟩ :=
        moveChain_represents rep (chained index (by simp)) (hashes index (by simp)) uniqueHere
          (enough index (by simp))
      have movedPerm := (Hmap.nodes_foldl_insertFast_perm (chain index) view).map Prod.snd
      rw [List.map_append] at movedPerm
      have uniqueRest : ((rest.flatMap chain).map Prod.snd ++
          ((chain index).foldl (fun built entry => built.insertFast entry.1 entry.2)
            view).values).Nodup := by
        refine (List.Perm.append_left _ movedPerm).nodup_iff.mpr ?_
        refine List.Perm.nodup_iff ?_ |>.mp unique
        rw [← List.append_assoc, ← List.append_assoc]
        exact List.Perm.append_right _ List.perm_append_comm
      have apart : ∀ later ∈ rest, ∀ node ∈ (chain later).map Prod.snd,
          node ∉ (chain index).map Prod.snd := by
        intro later member node inLater inIndex
        have disjoint := (List.nodup_append.mp unique).2.2 node inIndex
        refine disjoint node (List.mem_append_left _ ?_) rfl
        exact List.map_subset _ (fun _ => List.mem_flatMap_of_mem member) inLater
      obtain ⟨after, finished, repAfter⟩ := ih repMiddle
        (fun later member => (chained later (List.mem_cons_of_mem _ member)).congr
          fun node inLater => frame node (apart later member node inLater))
        (fun later member entry inLater => by
          rw [hashMiddle]
          exact hashes later (List.mem_cons_of_mem _ member) entry inLater)
        uniqueRest (fun later member => enough later (List.mem_cons_of_mem _ member))
      refine ⟨after, ?_, ?_⟩
      · rw [moveBuckets, moves]
        exact finished
      · rw [List.flatMap_cons, List.foldl_append]
        exact repAfter

theorem Represents.resize {m : LinkedHmap ν} {view : Hmap ν} (rep : Represents m view)
    (mask : Nat) : ∃ after, m.resize mask = some after ∧ Represents after (view.resize mask) := by
  have start : Represents { m with mask := mask, n := 0, bucket := fun _ => none }
      (Hmap.empty mask : Hmap ν) := Represents.empty mask m.next m.hash
  have moves := moveBuckets_represents m.walkBound m.bucket view.chain
    (List.range (m.mask + 1)) start
    (fun index _ => rep.chained index)
    (fun index _ entry member => rep.hashed entry
      (Hmap.mem_nodes.mpr (by rw [view.placed index entry member]; exact member)))
    (by
      rw [rep.mask, Hmap.values, Hmap.nodes_empty, List.map_nil, List.append_nil]
      exact rep.once)
    (fun index member => by
      have bound := chain_length_le_count view index (by
        have := List.mem_range.mp member
        rw [rep.mask] at this
        omega)
      rw [← rep.counted] at bound
      simp only [walkBound]
      omega)
  rw [rep.mask] at moves
  rw [LinkedHmap.resize, rep.mask]
  exact moves

theorem Represents.insert {m : LinkedHmap ν} {view : Hmap ν} (rep : Represents m view)
    (growth : HmapGrowth) {node : ν} (fresh : node ∉ view.values) (hash : Nat) :
    ∃ after, m.insert growth node hash = some after ∧
      Represents after (view.insert growth hash node) := by
  have linked := rep.insertFast fresh hash
  simp only [LinkedHmap.insert, Hmap.insert, LinkedHmap.expand, Hmap.expand, linked.mask,
    linked.counted]
  split
  · split
    · exact linked.resize _
    · exact ⟨_, rfl, linked⟩
  · exact ⟨_, rfl, linked⟩

end LinkedHmap
