/-
**A last-in-first-out client.**

A `StackClient` asks for blocks, by `ds_malloc` or by `ds_calloc`, and releases or resizes the last
one it got. Of the machinery for parked blocks it then sees nothing: the instance is a stack of
capacities in a budget of records and bytes (`stackServe`).

* `serve_stack` — on a stack of live blocks a call does what the bounded stack does. A release goes
  back to exactly the blocks below, and a block is resized at its address or not at all;
* `stack_refinement` — so every run of the client is one of the bounded stack: the same codes, the
  blocks one after the other from the start of the arena, and none of them ever parked.
-/

import Dynostatic.Machine

namespace Dynostatic

open Tracing Tracing.Traced Tiling Rounding Runs

/-! ### The client -/

/-- Ask for a block, or for one of zero bytes, release the last one, or resize the last one. -/
inductive StackCall where
  | push (size : Nat)
  | pushZeroed (len sizeOfElem : Nat)
  | pop
  | resize (size : Nat)

/-- An instance and the pointers to its blocks, the last one first. -/
structure StackClient where
  buffer : DynostaticBuffer
  held : List Nat

namespace StackClient

/-- The call of the library. Without a block the client passes a variable that holds `NULL`. -/
def op (client : StackClient) : StackCall → Op
  | .push size => .malloc .self (some 0) size
  | .pushZeroed len sizeOfElem => .calloc .self (some 0) len sizeOfElem
  | .pop => .free .self (some (client.held.headD 0))
  | .resize size => .realloc .self (some (client.held.headD 0)) size

/-- The pointers that are not passed. -/
def others (client : StackClient) : StackCall → List Nat
  | .push _ => client.held
  | .pushZeroed _ _ => client.held
  | .pop => client.held.tail
  | .resize _ => client.held.tail

end StackClient

/-- The variable passed joins the others, unless it holds `NULL` now. -/
def keep (left : Nat) (others : List Nat) : List Nat :=
  if left = 0 then others else left :: others

namespace StackClient

variable (q : Placement) (client : StackClient) (call : StackCall)

/-- The client after a call. -/
def next : StackClient where
  buffer := (reply q client.buffer (client.op call)).buffer
  held := keep ((reply q client.buffer (client.op call)).cell.getD 0) (client.others call)

/-- What the client sees of a call: its code, and the pointers it holds then. -/
def shows : DsErrCode × List Nat :=
  ((reply q client.buffer (client.op call)).code, (client.next q call).held)

end StackClient

/-! ### The bounded stack -/

section Stack

variable (q : Placement)

/-- Put a block of a rounded size on top, within the budget of records and bytes. -/
def stackPush (sizes : List Nat) (size : Nat) : Except DsErrCode (List Nat) := do
  reject (q.maxAllocationSize < size) .tooBigChunk
  reject (q.maxAllocationCount ≤ sizes.length) .noAllocators
  reject (q.bufferMemorySize < sizes.sum + roundUp q.alignment size) .noMemory
  pure (roundUp q.alignment size :: sizes)

/-- Give the top block another size, unless it is large enough. -/
def stackResize (top : Nat) (below : List Nat) (size : Nat) : Except DsErrCode (List Nat) := do
  reject (q.maxAllocationSize < size) .tooBigChunk
  if roundUp q.alignment size ≤ top then
    pure (top :: below)
  else if below.sum + roundUp q.alignment size ≤ q.bufferMemorySize then
    pure (roundUp q.alignment size :: below)
  else
    .error (if below.length + 1 < q.maxAllocationCount then .noMemory else .noAllocators)

/-- **The answer of the bounded stack**: the sizes after the call, the last one first. -/
def stackServe (sizes : List Nat) : StackCall → Except DsErrCode (List Nat)
  | .push size => do
    reject (size = 0) .invalidArg
    stackPush q sizes size
  | .pushZeroed len sizeOfElem => do
    reject (len = 0 ∨ sizeOfElem = 0) .invalidArg
    reject (2 ^ q.sizeBits ≤ len * sizeOfElem) .invalidArg
    stackPush q sizes (len * sizeOfElem)
  | .pop =>
    match sizes with
    | [] => .error .invalidArg
    | _ :: below => .ok below
  | .resize size =>
    match sizes with
    | [] => if size = 0 then .error .invalidArg else stackPush q [] size
    | top :: below => if size = 0 then .ok below else stackResize q top below size

/-- The bounded stack after a call. One that fails changes nothing. -/
def stackNext (sizes : List Nat) (call : StackCall) : List Nat :=
  match stackServe q sizes call with
  | .error _ => sizes
  | .ok after => after

/-- The addresses of the blocks, the last one first. -/
def addresses : List Nat → List Nat
  | [] => []
  | _ :: below => (q.base + below.sum) :: addresses below

/-- What the bounded stack shows: the code, and where its blocks lie after the call. -/
def stackShows (sizes : List Nat) (call : StackCall) : DsErrCode × List Nat :=
  (match stackServe q sizes call with
    | .error code => code
    | .ok _ => .ok, addresses q (stackNext q sizes call))

end Stack

/-- The blocks of a stack: all of them live. -/
def tiles (sizes : List Nat) : List Block := sizes.reverse.map fun size => ⟨size, true⟩

section Tiles

theorem tiles_cons (size : Nat) (sizes : List Nat) :
    tiles (size :: sizes) = tiles sizes ++ [⟨size, true⟩] := by
  unfold tiles
  rw [List.reverse_cons, List.map_append, List.map_singleton]

theorem length_tiles (sizes : List Nat) : (tiles sizes).length = sizes.length := by
  rw [tiles, List.length_map, List.length_reverse]

theorem extent_tiles (sizes : List Nat) : extent (tiles sizes) = sizes.sum := by
  induction sizes with
  | nil => rfl
  | cons size sizes ih =>
    rw [tiles_cons, extent_append, ih, extent_cons, extent_nil, Nat.add_zero, List.sum_cons,
      Nat.add_comm]

theorem tiles_live (sizes : List Nat) : ∀ block ∈ tiles sizes, block.live = true := by
  intro block member
  obtain ⟨size, -, rfl⟩ := List.mem_map.mp member
  rfl

/-- No parked block lies below the top one. -/
theorem strip_tiles (sizes : List Nat) : strip (tiles sizes) = tiles sizes := by
  cases sizes with
  | nil => rfl
  | cons size sizes =>
    rw [tiles_cons]
    exact tight_concat_iff.mpr rfl

/-- The release of the top block. -/
theorem release_tiles (size : Nat) (sizes : List Nat) :
    release (tiles (size :: sizes)) sizes.length = tiles sizes := by
  rw [tiles_cons, ← length_tiles sizes, release_last, strip_tiles]

end Tiles

/-! ### One call -/

section Call

variable {q : Placement}

/-- A budget that is short is short for a grant, with the same code. -/
theorem grant_tiles (sizes : List Nat) (size : Nat) :
    grant q.toConfig (tiles sizes) size = (do
      reject (q.maxAllocationCount ≤ sizes.length) .noAllocators
      reject (q.bufferMemorySize < sizes.sum + size) .noMemory
      pure (tiles (size :: sizes), sizes.length)) := by
  unfold grant
  rw [firstFit_of_all_live (tiles_live sizes), length_tiles, extent_tiles, tiles_cons]

/-- A request is a push. -/
theorem serveRequest_tiles (sizes : List Nat) (size : Nat) :
    serveRequest q (tiles sizes) 0 size =
      (stackPush q sizes size).map fun after =>
        (some (tiles after), some ((addresses q after).headD 0)) := by
  have null : ¬ blockAt q (tiles sizes) 0 ≠ none := not_not.mpr (blockAt_null _)
  unfold serveRequest stackPush
  rw [grant_tiles, reject_of_neg null]
  by_cases large : q.maxAllocationSize < size
  · rw [reject_of_pos large, reject_of_pos large]
    rfl
  rw [reject_of_neg large, reject_of_neg large]
  by_cases full : q.maxAllocationCount ≤ sizes.length
  · rw [reject_of_pos full, reject_of_pos full]
    rfl
  rw [reject_of_neg full, reject_of_neg full]
  by_cases short : q.bufferMemorySize < sizes.sum + roundUp q.alignment size
  · rw [reject_of_pos short, reject_of_pos short]
    rfl
  rw [reject_of_neg short, reject_of_neg short]
  -- the new block starts where the others end
  have begins : start (tiles (roundUp q.alignment size :: sizes)) sizes.length = sizes.sum := by
    rw [tiles_cons, ← length_tiles sizes, start_append_of_le le_rfl, start_length, extent_tiles]
  show Except.ok (_, some (q.base + start (tiles _) sizes.length)) = _
  rw [begins]
  rfl

variable {layout : Layout q.toConfig} {top : Nat} {below : List Nat}
  (stacked : layout.blocks = tiles (top :: below))

include stacked

/-- The top block is the one at the first of the addresses. -/
theorem seekStart_top :
    seekStart q layout.blocks (q.base + below.sum) = .ok (below.length, top) := by
  have last : layout.blocks = tiles below ++ [⟨top, true⟩] := stacked.trans (tiles_cons top below)
  have sought := seekStart_live (q := q) (getElem?_of_last last)
  rwa [start_of_last last, extent_tiles, length_tiles] at sought

/-- A release is a pop. -/
theorem serveRelease_tiles :
    serveRelease q layout.blocks (q.base + below.sum) = .ok (some (tiles below), some 0) := by
  unfold serveRelease
  rw [seekStart_top stacked, ← release_tiles top below, ← stacked]
  rfl

/-- **The top block grows in place or not at all**: if there is no space above it, there is none for
a block elsewhere. -/
theorem serveResize_tiles (size : Nat) :
    serveResize q layout.blocks (q.base + below.sum) size =
      (stackResize q top below size).map fun after =>
        (some (tiles after), some ((addresses q after).headD 0)) := by
  have last : layout.blocks = tiles below ++ [⟨top, true⟩] := stacked.trans (tiles_cons top below)
  have begins : start layout.blocks below.length = below.sum := by
    rw [← length_tiles below, start_of_last last, extent_tiles]
  have ends : extent layout.blocks = below.sum + top := by
    rw [extent_of_last last, extent_tiles]
  unfold serveResize stackResize
  by_cases large : q.maxAllocationSize < size
  · rw [reject_of_pos large, reject_of_pos large]
    rfl
  rw [reject_of_neg large, reject_of_neg large, seekStart_top stacked]
  show (if roundUp q.alignment size ≤ top then _ else _) = _
  by_cases fit : roundUp q.alignment size ≤ top
  · rw [if_pos fit, if_pos fit, stacked]
    rfl
  rw [if_neg fit, if_neg fit, begins, ends]
  by_cases room : below.sum + roundUp q.alignment size ≤ q.bufferMemorySize
  · rw [if_pos ⟨rfl, room⟩, if_pos room, last, ← length_tiles below, List.take_left, ← tiles_cons]
    rfl
  rw [if_neg fun both => room both.2, if_neg room, stacked, grant_tiles, List.length_cons,
    List.sum_cons]
  by_cases full : q.maxAllocationCount ≤ below.length + 1
  · rw [reject_of_pos full, if_neg (Nat.not_lt_of_le full)]
    rfl
  · rw [reject_of_neg full, reject_of_pos (by omega), if_pos (Nat.lt_of_not_le full)]
    rfl

end Call

/-! ### Every run -/

section Run

variable {q : Placement}

/-- The call releases the top block. -/
def StackCall.releases : StackCall → Bool
  | .push _ => false
  | .pushZeroed _ _ => false
  | .pop => true
  | .resize size => size = 0

/-- What a call that succeeds leaves in the variable passed. -/
def StackCall.left (q : Placement) (call : StackCall) (after : List Nat) : Nat :=
  if call.releases then 0 else (addresses q after).headD 0

theorem StackCall.left_resize {size : Nat} (nonZero : ¬ size = 0) (after : List Nat) :
    StackCall.left q (.resize size) after = (addresses q after).headD 0 :=
  if_neg (by rwa [releases, decide_eq_true_iff])

/-- A client of a stack of blocks: the instance has these blocks and no others, and the client holds
their addresses. -/
structure Stacked (q : Placement) (client : StackClient) (sizes : List Nat) : Prop where
  formed : WellFormed q client.buffer
  inventory_eq : inventory q client.buffer = some (tiles sizes)
  held : client.held = addresses q sizes

theorem Stacked.exists_layout {client : StackClient} {sizes : List Nat}
    (stacked : Stacked q client sizes) :
    ∃ layout : Layout q.toConfig, layout.blocks = tiles sizes := by
  have same := stacked.inventory_eq
  rcases stacked.formed with raw | ⟨layout, memory, encoded⟩
  · rw [inventory_uninitialized raw] at same
    cases same
  · rw [encoded, inventory_encode] at same
    exact ⟨layout, Option.some.inj same⟩

/-- **A call does what the bounded stack does.** -/
theorem Stacked.serve_stack {client : StackClient} {sizes : List Nat}
    (stacked : Stacked q client sizes) (call : StackCall) :
    serve q (some (tiles sizes)) (client.op call) = (stackServe q sizes call).map fun after =>
      (some (tiles after), some (call.left q after)) := by
  obtain ⟨layout, blocks⟩ := stacked.exists_layout
  have based := q.base_pos
  cases call with
  | push size =>
    show (reject (size = 0) .invalidArg >>= fun _ => serveRequest q (tiles sizes) 0 size) =
      (reject (size = 0) .invalidArg >>= fun _ => stackPush q sizes size).map _
    by_cases zero : size = 0
    · rw [reject_of_pos zero, reject_of_pos zero]
      rfl
    · rw [reject_of_neg zero, reject_of_neg zero]
      exact serveRequest_tiles sizes size
  | pushZeroed len sizeOfElem =>
    show (reject (len = 0 ∨ sizeOfElem = 0) .invalidArg >>= fun _ =>
        reject (2 ^ q.sizeBits ≤ len * sizeOfElem) .invalidArg >>= fun _ =>
          serveRequest q (tiles sizes) 0 (len * sizeOfElem)) =
      (reject (len = 0 ∨ sizeOfElem = 0) .invalidArg >>= fun _ =>
        reject (2 ^ q.sizeBits ≤ len * sizeOfElem) .invalidArg >>= fun _ =>
          stackPush q sizes (len * sizeOfElem)).map _
    by_cases zero : len = 0 ∨ sizeOfElem = 0
    · rw [reject_of_pos zero, reject_of_pos zero]
      rfl
    rw [reject_of_neg zero, reject_of_neg zero]
    by_cases wraps : 2 ^ q.sizeBits ≤ len * sizeOfElem
    · rw [reject_of_pos wraps, reject_of_pos wraps]
      rfl
    · rw [reject_of_neg wraps, reject_of_neg wraps]
      exact serveRequest_tiles sizes (len * sizeOfElem)
  | pop =>
    unfold StackClient.op
    rw [stacked.held]
    cases sizes with
    | nil => exact reject_of_pos rfl _ _
    | cons top below =>
      have nonNull : ¬ q.base + below.sum = 0 := by omega
      rw [← blocks]
      exact (reject_of_neg nonNull _ _).trans (serveRelease_tiles blocks)
  | resize size =>
    unfold StackClient.op
    rw [stacked.held]
    cases sizes with
    | nil =>
      show (if size = 0 then _ else _) = Except.map _ (if size = 0 then _ else _)
      by_cases zero : size = 0
      · rw [if_pos zero, if_pos zero]
        exact reject_of_pos rfl _ _
      · rw [if_neg zero, if_neg zero]
        simp only [StackCall.left_resize zero]
        exact serveRequest_tiles [] size
    | cons top below =>
      have nonNull : ¬ q.base + below.sum = 0 := by omega
      show (if size = 0 then _ else _) = Except.map _ (if size = 0 then _ else _)
      rw [← blocks]
      by_cases zero : size = 0
      · rw [if_pos zero, if_pos zero]
        subst zero
        exact (reject_of_neg nonNull _ _).trans (serveRelease_tiles blocks)
      · rw [if_neg zero, if_neg zero]
        simp only [StackCall.left_resize zero]
        exact (if_neg nonNull).trans (serveResize_tiles blocks size)

theorem stackPush_ok {sizes after : List Nat} {size : Nat}
    (served : stackPush q sizes size = .ok after) : after = roundUp q.alignment size :: sizes := by
  obtain ⟨-, served⟩ := ok_of_reject served
  obtain ⟨-, served⟩ := ok_of_reject served
  obtain ⟨-, served⟩ := ok_of_reject served
  exact (Except.ok.inj served).symm

theorem stackResize_ok {top : Nat} {below after : List Nat} {size : Nat}
    (served : stackResize q top below size = .ok after) : ∃ size', after = size' :: below := by
  obtain ⟨-, served⟩ := ok_of_reject served
  change (if roundUp q.alignment size ≤ top then _ else _) = _ at served
  split at served
  · exact ⟨_, (Except.ok.inj served).symm⟩
  · split at served
    · exact ⟨_, (Except.ok.inj served).symm⟩
    · cases served

/-- The address of a block on top is held. -/
theorem keep_address (sizes : List Nat) (size : Nat) (others : List Nat) :
    keep ((addresses q (size :: sizes)).headD 0) others = (q.base + sizes.sum) :: others := by
  have based := q.base_pos
  exact if_neg (by show ¬ q.base + sizes.sum = 0; omega)

/-- A variable that is as it was goes back to its place. -/
theorem keep_head (sizes : List Nat) :
    keep ((addresses q sizes).headD 0) (addresses q sizes).tail = addresses q sizes := by
  cases sizes with
  | nil => rfl
  | cons size sizes => exact keep_address sizes size _

/-- After a call that succeeds the client holds the addresses of the stack. -/
theorem keep_left {client : StackClient} {sizes after : List Nat}
    (held : client.held = addresses q sizes) {call : StackCall}
    (served : stackServe q sizes call = .ok after) :
    keep (call.left q after) (client.others call) = addresses q after := by
  cases call with
  | push size =>
    obtain ⟨-, served⟩ := ok_of_reject served
    obtain rfl := stackPush_ok served
    rw [StackClient.others, held]
    exact keep_address sizes (roundUp q.alignment size) _
  | pushZeroed len sizeOfElem =>
    obtain ⟨-, served⟩ := ok_of_reject served
    obtain ⟨-, served⟩ := ok_of_reject served
    obtain rfl := stackPush_ok served
    rw [StackClient.others, held]
    exact keep_address sizes (roundUp q.alignment (len * sizeOfElem)) _
  | pop =>
    show keep 0 client.held.tail = _
    rw [held]
    cases sizes <;> cases served
    rfl
  | resize size =>
    show keep _ client.held.tail = _
    rw [held]
    by_cases zero : size = 0
    · subst zero
      cases sizes <;> cases served
      rfl
    · rw [StackCall.left_resize zero]
      cases sizes with
      | nil =>
        obtain rfl := stackPush_ok ((if_neg zero).symm.trans served)
        exact keep_address _ _ _
      | cons top below =>
        obtain ⟨size', rfl⟩ := stackResize_ok ((if_neg zero).symm.trans served)
        exact keep_address _ _ _

/-- **One step.** -/
theorem Stacked.step {client : StackClient} {sizes : List Nat} (stacked : Stacked q client sizes)
    (call : StackCall) :
    client.shows q call = stackShows q sizes call ∧
      Stacked q (client.next q call) (stackNext q sizes call) := by
  have held := stacked.held
  have shown := reply_shown stacked.formed (client.op call)
  rw [stacked.inventory_eq, attend, stacked.serve_stack call] at shown
  have formed : WellFormed q (client.next q call).buffer :=
    stacked.formed.next (.call (client.op call))
  unfold StackClient.shows stackShows stackNext
  rcases served : stackServe q sizes call with code | after
  · rw [served] at shown
    -- nothing changes, and the variable passed goes back to its place
    have kept : (client.next q call).held = addresses q sizes := by
      have cell : (reply q client.buffer (client.op call)).cell = (client.op call).cell :=
        congrArg Shown.cell shown
      show keep ((reply q client.buffer (client.op call)).cell.getD 0) (client.others call) = _
      rw [cell]
      cases call with
      | push size => exact held
      | pushZeroed len sizeOfElem => exact held
      | pop =>
        show keep (client.held.headD 0) client.held.tail = _
        rw [held, keep_head]
      | resize size =>
        show keep (client.held.headD 0) client.held.tail = _
        rw [held, keep_head]
    exact ⟨Prod.ext (congrArg Shown.code shown) kept, formed, congrArg Shown.after shown, kept⟩
  · rw [served] at shown
    have kept : (client.next q call).held = addresses q after := by
      have cell : (reply q client.buffer (client.op call)).cell = some (call.left q after) :=
        congrArg Shown.cell shown
      show keep ((reply q client.buffer (client.op call)).cell.getD 0) (client.others call) = _
      rw [cell]
      exact keep_left held served
    exact ⟨Prod.ext (congrArg Shown.code shown) kept, formed, congrArg Shown.after shown, kept⟩

/-- **A last-in-first-out client runs on a bounded stack.** From a fresh instance, whatever it asks
for, it sees the codes and the addresses of a stack of rounded sizes within `N` records and `B`
bytes, and the instance has the blocks of that stack: all of them live, without a gap. -/
theorem stack_refinement (q : Placement) {first : DynostaticBuffer}
    (fresh : first.initMagic ≠ dsMagicNumber) (calls : List StackCall) :
    trace (StackClient.next q) (StackClient.shows q) ⟨freshInstance q first, []⟩ calls =
        trace (stackNext q) (stackShows q) [] calls ∧
      inventory q (run (StackClient.next q) ⟨freshInstance q first, []⟩ calls).buffer =
        some (tiles (run (stackNext q) [] calls)) := by
  have started : Stacked q ⟨freshInstance q first, []⟩ [] := by
    rw [freshInstance_eq fresh]
    exact ⟨Layout.wellFormed _ _, inventory_encode _ _, rfl⟩
  have step : ∀ client sizes call call', Stacked q client sizes → call = call' →
      client.shows q call = stackShows q sizes call' ∧
        Stacked q (client.next q call) (stackNext q sizes call') := by
    rintro client sizes call - stacked rfl
    exact stacked.step call
  obtain ⟨shown, last⟩ := trace_related step (List.forall₂_refl calls) started
  rw [List.forall₂_eq_eq_eq] at shown
  exact ⟨shown, last.inventory_eq⟩

end Run

/-- A resize of the top block, releases, and requests that fail: one past the end, and one for a
product that no `size_t` holds. -/
theorem stack_refinement_resize :
    inventory defaultPlacement (run (StackClient.next defaultPlacement)
        ⟨freshInstance defaultPlacement zeroBuffer, []⟩
        [.push 10, .pushZeroed 5 4, .resize 30, .pushZeroed (2 ^ 32) (2 ^ 32), .pop, .resize 40,
          .push 300, .pushZeroed 3 5]).buffer =
      some [⟨40, true⟩, ⟨16, true⟩] :=
  (stack_refinement defaultPlacement zeroBuffer_fresh _).2.trans (by decide)

end Dynostatic
