import Mathlib.Data.List.Perm.Basic

/-!
# Memory slabs

`struct k_mem_slab` as the memory example uses it: a fixed set of blocks, each either on the
slab's free list or handed out.  As for the other kernel objects, the kernel's code is not part
of the guide: what is modelled is the contract of the calls the example makes.

* `KMemSlab.alloc` is `k_mem_slab_alloc(slab, &mem, K_NO_WAIT)`: the block at the head of the
  free list, or nothing when the list is empty (the call then stores `NULL` in `mem` and returns
  `-ENOMEM`).
* `KMemSlab.free` is `k_mem_slab_free`: the block goes back on the head of the free list.  Freeing
  anything the slab has not handed out is undefined, and gives `none`.
* `KMemSlab.numFreeGet` is `k_mem_slab_num_free_get`.

No block is both free and handed out, and none is listed twice: that is a field.  Blocks are
named by a type `β` of their own; their size and alignment, and what is stored in them, are not
part of the contract.

Modelled from the spec: `k_mem_slab` is kernel code, absent from `src/`; this is the slab
allocator of the specification's §4.3 (a free stack popped and pushed in O(1), allocation that
never blocks).
-/

set_option autoImplicit false

namespace ZephyrGuide

/-- Modelled from the spec (§4.3, the kernel's code is not in `src/`): a memory slab, its free
list, head first, and the blocks handed out. -/
structure KMemSlab (β : Type) where
  freeList : List β
  used : List β
  nodup : (freeList ++ used).Nodup

namespace KMemSlab

variable {β : Type}

/-- `K_MEM_SLAB_DEFINE` of the blocks `blocks`, all free. -/
def define (blocks : List β) (h : blocks.Nodup) : KMemSlab β :=
  ⟨blocks, [], by rwa [List.append_nil]⟩

/-- `k_mem_slab_num_free_get`. -/
def numFreeGet (s : KMemSlab β) : Nat := s.freeList.length

/-- `k_mem_slab_alloc(slab, &mem, K_NO_WAIT)`: the slab afterwards and the block, if one was
free. -/
def alloc (s : KMemSlab β) : Option (KMemSlab β × β) :=
  match h : s.freeList with
  | b :: rest => some (⟨rest, b :: s.used, List.perm_middle.nodup_iff.2
    (show (b :: rest ++ s.used).Nodup from h ▸ s.nodup)⟩, b)
  | [] => none

/-- `k_mem_slab_free(slab, b)`; `none` when `b` is not a block the slab handed out. -/
def free [DecidableEq β] (s : KMemSlab β) (b : β) : Option (KMemSlab β) :=
  if hb : b ∈ s.used then
    some ⟨b :: s.freeList, s.used.erase b,
      (((List.perm_cons_erase hb).append_left s.freeList).trans List.perm_middle).nodup_iff.1 s.nodup⟩
  else none

/-! ## What each call does -/

/-- An allocation takes the head of the free list. -/
theorem alloc_of_cons {s : KMemSlab β} {b : β} {rest : List β} (h : s.freeList = b :: rest) :
    ∃ t, s.alloc = some (t, b) ∧ t.freeList = rest ∧ t.used = b :: s.used := by
  unfold alloc
  split
  · next _ _ h' =>
    rw [h, List.cons.injEq] at h'
    obtain ⟨rfl, rfl⟩ := h'
    exact ⟨_, rfl, rfl, rfl⟩
  · next h' => exact absurd (h.symm.trans h') (List.cons_ne_nil _ _)

/-- An allocation from an empty free list fails. -/
theorem alloc_of_nil {s : KMemSlab β} (h : s.freeList = []) : s.alloc = none := by
  unfold alloc
  split
  · next _ _ h' => exact absurd (h.symm.trans h') (List.cons_ne_nil _ _).symm
  · rfl

section Free

variable [DecidableEq β]

/-- Freeing a block handed out puts it back at the head of the free list. -/
theorem free_of_mem {s : KMemSlab β} {b : β} (h : b ∈ s.used) :
    ∃ t, s.free b = some t ∧ t.freeList = b :: s.freeList ∧ t.used = s.used.erase b :=
  ⟨_, dif_pos h, rfl, rfl⟩

/-- Freeing, one after the other, distinct blocks that were all handed out: each goes back on
the free list, so they end up there in reverse order, and the rest stay handed out. -/
theorem foldl_free {bs : List β} (hnd : bs.Nodup) :
    ∀ {s : KMemSlab β}, (∀ b ∈ bs, b ∈ s.used) →
      ∃ t, bs.foldl (fun o b => o.bind (·.free b)) (some s) = some t ∧
        t.freeList = bs.reverse ++ s.freeList ∧ s.used.Perm (bs ++ t.used) := by
  induction bs with
  | nil => exact fun _ => ⟨_, rfl, rfl, List.Perm.refl _⟩
  | cons b bs ih =>
    intro s hs
    obtain ⟨s₁, h₁, hf, hu⟩ := free_of_mem (hs b (List.mem_cons_self _ _))
    have hs₁ : ∀ x ∈ bs, x ∈ s₁.used := fun x hx => hu ▸
      (List.mem_erase_of_ne (fun e : x = b => (List.nodup_cons.1 hnd).1 (e ▸ hx))).2
        (hs x (List.mem_cons_of_mem _ hx))
    obtain ⟨t, ht, htf, htu⟩ := ih (List.nodup_cons.1 hnd).2 hs₁
    refine ⟨t, by simpa only [List.foldl_cons, Option.some_bind, h₁] using ht, ?_, ?_⟩
    · rw [htf, hf, List.reverse_cons, List.append_assoc, List.singleton_append]
    · exact (List.perm_cons_erase (hs b (List.mem_cons_self _ _))).trans
        (hu ▸ htu.cons b)

end Free

end KMemSlab

end ZephyrGuide
