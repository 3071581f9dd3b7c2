import Mathlib.Data.List.Basic

/-!
# `Infrarust.Lib.Framer`: decoders that take items off a growing buffer

A framer is a decoder that input is pushed into and items are taken out of. Asked for the
next item it answers one of three things: it needs more input, it takes one item, or the
input is malformed. The laws of `Framer` say that more input never changes an answer that
was already given, and that a measure of the state goes down with every item. `drain` asks
until the decoder stops, and `feed` drains after each chunk that arrives.

The two results the decoders of a stream protocol need are:

* `feed_eq_drain_flatten`: the way a stream is cut into chunks does not change the items,
  the first failure, or the state that is left.
* `drain_push_of_encodes`: when `bs` is an encoding of `x`, draining `bs ++ t` gives `x`
  and then whatever draining `t` gives.

Nothing here mentions a protocol. `hooked` lets the receiver of the items change the state
of the decoder between two of them.
-/

set_option autoImplicit false

namespace Framing

/-- The answer of one attempt to take an item. -/
inductive Step (σ β ε : Type) where
  /-- There is no complete item yet. -/
  | more
  /-- The item `x` was taken and the decoder is now in state `s`. -/
  | item (x : β) (s : σ)
  /-- The input can never start with an item. -/
  | fail (e : ε)

/-- An incremental decoder together with its laws. A value of this type cannot answer
differently once more input has arrived. -/
structure Framer (σ α β ε : Type) where
  /-- Appends input. -/
  push : σ → List α → σ
  /-- One attempt to take an item. -/
  next : σ → Step σ β ε
  /-- The amount of pending input, which an item makes smaller. -/
  size : σ → Nat
  push_nil : ∀ s, push s [] = s
  push_append : ∀ s bs cs, push s (bs ++ cs) = push (push s bs) cs
  size_push : ∀ s t, size (push s t) = size s + t.length
  /-- An item stays the same item when input is appended, and the input is left over. -/
  next_push_of_item : ∀ {s x s'}, next s = .item x s' → ∀ t, next (push s t) = .item x (push s' t)
  /-- A failure stays the same failure when input is appended. -/
  next_push_of_fail : ∀ {s e}, next s = .fail e → ∀ t, next (push s t) = .fail e
  size_lt_of_item : ∀ {s x s'}, next s = .item x s' → size s' < size s

/-- Where a decoder stands after it was drained. -/
inductive Status (σ ε : Type) where
  /-- Waiting for more input in state `s`. -/
  | waiting (s : σ)
  /-- Stopped at the first failure. -/
  | failed (e : ε)

variable {σ α β ε : Type}

namespace Framer

/-- At most `n` attempts, collecting the items. -/
def drainN (F : Framer σ α β ε) : Nat → σ → List β × Status σ ε
  | 0, s => ([], .waiting s)
  | n + 1, s =>
    match F.next s with
    | .more => ([], .waiting s)
    | .fail e => ([], .failed e)
    | .item x s' => (x :: (F.drainN n s').1, (F.drainN n s').2)

/-- Attempts until the decoder waits or fails. Each item makes the state smaller, so its
size bounds the number of attempts (`drainN_of_lt`). -/
def drain (F : Framer σ α β ε) (s : σ) : List β × Status σ ε := F.drainN (F.size s + 1) s

/-- Pushes the chunks one by one and drains after each of them. Nothing is pushed after a
failure. -/
def feed (F : Framer σ α β ε) : Status σ ε → List (List α) → List β × Status σ ε
  | st, [] => ([], st)
  | .failed e, _ :: _ => ([], .failed e)
  | .waiting s, c :: cs =>
    let r := F.drain (F.push s c)
    let r' := F.feed r.2 cs
    (r.1 ++ r'.1, r'.2)

/-- `bs` is an encoding of the item `x` in state `s`: whatever follows it, it decodes to `x`
and leaves the decoder in state `s'` with what followed. -/
def Encodes (F : Framer σ α β ε) (s : σ) (bs : List α) (x : β) (s' : σ) : Prop :=
  ∀ t, F.next (F.push s (bs ++ t)) = .item x (F.push s' t)

variable {s s' : σ} {x : β} {bs : List α}

section

variable (F : Framer σ α β ε)

include F

/-- More attempts than the size of the state give the result of any larger number. -/
theorem drainN_of_lt :
    ∀ (n m : Nat) (s : σ), F.size s < n → F.size s < m → F.drainN n s = F.drainN m s := by
  -- On the first number of attempts. The state is generalised, since an item changes it.
  intro n
  induction n with
  | zero => intro m s hn _; omega
  | succ n ih =>
    intro m s hn hm
    obtain ⟨m, rfl⟩ : ∃ k, m = k + 1 := ⟨m - 1, by omega⟩
    simp only [drainN]
    cases h : F.next s with
    | more | fail e => rfl
    | item x s' =>
      have hlt := F.size_lt_of_item h
      simp only [ih m s' (by omega) (by omega)]

/-- `drain` on a state that holds no complete item. -/
theorem drain_of_more (h : F.next s = .more) : F.drain s = ([], .waiting s) := by
  rw [drain, drainN, h]

/-- `drain` on malformed input. -/
theorem drain_of_fail {e : ε} (h : F.next s = .fail e) : F.drain s = ([], .failed e) := by
  rw [drain, drainN, h]

/-- `drain` on a state that holds an item. -/
theorem drain_of_item (h : F.next s = .item x s') :
    F.drain s = (x :: (F.drain s').1, (F.drain s').2) := by
  have hlt := F.size_lt_of_item h
  rw [drain, drainN, h]
  simp only [F.drainN_of_lt (F.size s) (F.size s' + 1) s' hlt (Nat.lt_succ_self _), drain]

/-- The induction behind every fact about `drain`: a property of states holds when it holds
of the states that wait or fail, and passes from what an item leaves to the state before. -/
theorem drain_induction {P : σ → Prop} (more : ∀ s, F.next s = .more → P s)
    (fail : ∀ s e, F.next s = .fail e → P s)
    (item : ∀ s x s', F.next s = .item x s' → P s' → P s) (s) : P s := by
  induction hn : F.size s using Nat.strongRecOn generalizing s with
  | _ n ih =>
    cases h : F.next s with
    | more => exact more s h
    | fail e => exact fail s e h
    | item x s' => exact item s x s' h (ih _ (hn ▸ F.size_lt_of_item h) s' rfl)

/-- A drained decoder that waits holds no complete item. -/
theorem next_of_drain_waiting (s) : ∀ s', (F.drain s).2 = .waiting s' → F.next s' = .more := by
  induction s using F.drain_induction with
  | more s h =>
    intro s' hd
    rw [F.drain_of_more h] at hd
    cases hd
    exact h
  | fail s e h =>
    intro s' hd
    rw [F.drain_of_fail h] at hd
    cases hd
  | item s x s₁ h ih =>
    intro s' hd
    rw [F.drain_of_item h] at hd
    exact ih s' hd

/-- Draining more input is draining what there is and then the rest of it. After a failure
the appended input is not looked at. -/
theorem drain_push (s t) :
    F.drain (F.push s t) = match (F.drain s).2 with
      | .failed e => ((F.drain s).1, .failed e)
      | .waiting s' =>
        ((F.drain s).1 ++ (F.drain (F.push s' t)).1, (F.drain (F.push s' t)).2) := by
  induction s using F.drain_induction with
  | more s h => simp [F.drain_of_more h]
  | fail s e h => simp [F.drain_of_fail h, F.drain_of_fail (F.next_push_of_fail h t)]
  | item s x s' h ih =>
    rw [F.drain_of_item h, F.drain_of_item (F.next_push_of_item h t), ih]
    -- The tail is drained by the same rule, so only its status decides the shape.
    cases (F.drain s').2 <;> simp

/-- Chunking does not matter. A decoder that waits and is fed chunk by chunk produces the
items, and reaches the status, of one that is given everything at once. -/
theorem feed_eq_drain_flatten (chunks) :
    ∀ s : σ, F.next s = .more → F.feed (.waiting s) chunks = F.drain (F.push s chunks.flatten) := by
  induction chunks with
  | nil =>
    intro s h
    simp [feed, F.push_nil, F.drain_of_more h]
  | cons c cs ih =>
    intro s h
    simp only [feed, List.flatten_cons]
    rw [F.push_append, F.drain_push (F.push s c)]
    cases hst : (F.drain (F.push s c)).2 with
    -- `feed` ignores the chunks after a failure, and so does `drain_push`.
    | failed e => cases cs <;> simp [feed]
    | waiting s' => simp only [ih s' (F.next_of_drain_waiting _ s' hst)]

/-- Draining an encoded item yields the item first. -/
theorem drain_push_of_encodes (h : F.Encodes s bs x s') (t) :
    F.drain (F.push s (bs ++ t)) = (x :: (F.drain (F.push s' t)).1, (F.drain (F.push s' t)).2) :=
  F.drain_of_item (h t)

end

variable {F : Framer σ α β ε}

/-- An encoding is not empty when the decoder was waiting. -/
theorem Encodes.ne_nil (h : F.Encodes s bs x s') (hs : F.next s = .more) : bs ≠ [] := by
  rintro rfl
  have hnil := h []
  rw [List.append_nil, F.push_nil, hs] at hnil
  cases hnil

variable {cs : List α}

/-- One more encoded item at the end of a stream that was drained completely. -/
theorem drain_push_append_of_encodes (F : Framer σ α β ε) {s'' xs}
    (hd : F.drain (F.push s bs) = (xs, .waiting s')) (h : F.Encodes s' cs x s'')
    (hs'' : F.next s'' = .more) : F.drain (F.push s (bs ++ cs)) = (xs ++ [x], .waiting s'') := by
  have hlast := F.drain_push_of_encodes h []
  rw [List.append_nil, F.push_nil, F.drain_of_more hs''] at hlast
  rw [F.push_append, F.drain_push, hd]
  simp only [hlast]

/-- Further input that completes no item, at the end of a stream that was drained. -/
theorem drain_push_append_of_more (F : Framer σ α β ε) {xs}
    (hd : F.drain (F.push s bs) = (xs, .waiting s')) (hmore : F.next (F.push s' cs) = .more) :
    F.drain (F.push s (bs ++ cs)) = (xs, .waiting (F.push s' cs)) := by
  rw [F.push_append, F.drain_push, hd]
  simp only [F.drain_of_more hmore, List.append_nil]

/-- A proper beginning of an encoding that leaves nothing pending holds no item and no
failure. Either would still be the answer to the whole encoding, with the missing part left
over. -/
theorem next_of_encodes_append (F : Framer σ α β ε) (h : F.Encodes s (bs ++ cs) x s')
    (hs' : F.size s' = 0) (hcs : cs ≠ []) : F.next (F.push s bs) = .more := by
  have hall := h []
  rw [List.append_nil, F.push_append, F.push_nil] at hall
  cases hn : F.next (F.push s bs) with
  | more => rfl
  | fail e =>
    rw [F.next_push_of_fail hn cs] at hall
    cases hall
  | item y s₁ =>
    -- The item came without `cs`, so `cs` would still be pending in `s'`.
    rw [F.next_push_of_item hn cs] at hall
    cases hall
    have hpos := List.length_pos_iff.2 hcs
    rw [F.size_push] at hs'
    omega

/-- The decoder whose state is changed by `hook` right after each item, with a memory `μ` of
the receiver's own. The hook may not touch the pending input, which is what `hpush` and
`hsize` say. -/
def hooked {μ : Type} (F : Framer σ α β ε) (hook : β → μ → σ → σ × μ)
    (hpush : ∀ x m s t, hook x m (F.push s t) = (F.push (hook x m s).1 t, (hook x m s).2))
    (hsize : ∀ x m s, F.size (hook x m s).1 = F.size s) :
    Framer (σ × μ) α β ε where
  push p t := (F.push p.1 t, p.2)
  next p :=
    match F.next p.1 with
    | .more => .more
    | .fail e => .fail e
    | .item x s => .item x (hook x p.2 s)
  size p := F.size p.1
  push_nil p := by rw [F.push_nil]
  push_append p bs cs := by rw [F.push_append]
  size_push p t := F.size_push p.1 t
  next_push_of_item {p x p'} h t := by
    cases hn : F.next p.1 with
    | more | fail e => simp [hn] at h
    | item y s =>
      simp only [hn, Step.item.injEq] at h
      obtain ⟨rfl, rfl⟩ := h
      simp only [F.next_push_of_item hn t, hpush]
  next_push_of_fail {p e} h t := by
    cases hn : F.next p.1 with
    | more | item y s => simp [hn] at h
    | fail e' =>
      simp only [hn, Step.fail.injEq] at h
      subst h
      simp only [F.next_push_of_fail hn t]
  size_lt_of_item {p x p'} h := by
    cases hn : F.next p.1 with
    | more | fail e => simp [hn] at h
    | item y s =>
      simp only [hn, Step.item.injEq] at h
      obtain ⟨rfl, rfl⟩ := h
      rw [hsize]
      exact F.size_lt_of_item hn

theorem hooked_next_of_more {μ : Type} {hook}
    {hpush : ∀ x m s t, hook x m (F.push s t) = (F.push (hook x m s).1 t, (hook x m s).2)}
    {hsize : ∀ x m s, F.size (hook x m s).1 = F.size s} (h : F.next s = .more) (m : μ) :
    (F.hooked hook hpush hsize).next (s, m) = .more := by
  simp only [hooked, h]

/-- An encoding for a decoder is one for the hooked decoder, which ends in the state the
hook makes. -/
theorem Encodes.hooked {μ : Type} {hook}
    {hpush : ∀ x m s t, hook x m (F.push s t) = (F.push (hook x m s).1 t, (hook x m s).2)}
    {hsize : ∀ x m s, F.size (hook x m s).1 = F.size s} (h : F.Encodes s bs x s') (m : μ) :
    (F.hooked hook hpush hsize).Encodes (s, m) bs x (hook x m s') := by
  intro t
  simp only [Framer.hooked, h t, hpush]

end Framer

end Framing
