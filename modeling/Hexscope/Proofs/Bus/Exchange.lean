import Mathlib.Data.List.DropRight
import Hexscope.Proofs.Bus.Block

/-!
# Exchanges with a bus

Whoever uses a bus asks for something and gets an answer (`Bus.Exchange`). If the memories were new when they
were registered, the exchanges so far tell what every cell holds and what the access log lists
(`Bus.Recalls`), however the ranges overlap.

* `Bus.resolve_afterAll`: an address goes on leading to the same place, whatever is asked;
* `Bus.Recalls.ask`: a cell holds the last byte that was written to it, and one more exchange keeps it so;
* `Bus.memory_with_log`: what a bus answers after any exchanges.
-/

namespace Hexscope

namespace Ram

/-- Nothing was written to a memory since it was made. -/
def IsNew (r : Ram) : Prop := (∃ n, ofSize? n = .ok r) ∨ ∃ b, ofTruth? b = .ok r

theorem IsNew.cells_eq {r : Ram} (h : r.IsNew) : r.cells = (zeros r.size).cells := by
  have blank (n : Nat) : (zeros n).cells = (zeros (zeros n).size).cells := by rw [size_zeros]
  rcases h with ⟨n, made⟩ | ⟨b, made⟩
  · unfold ofSize? at made
    split_ifs at made
    cases made
    exact blank n.toNat
  · unfold ofTruth? at made
    split_ifs at made
    cases made
    exact blank 1

theorem getD_zeros (n k : Nat) : (zeros n).cells.getD k 0 = 0 := by
  by_cases h : k < n <;> simp [zeros, Array.getD, h]

end Ram

namespace Bus

/-- What is asked of a bus. -/
inductive Request where
  | register (first last : Int) (part : Part)
  | read (a : Int)
  | write (a data : Int)
  | peek (a : Int)
  /-- The log is taken. -/
  | drain
  | clear
deriving Repr

/-- What a bus answers. -/
inductive Answer where
  | done
  | byte (d : UInt8)
  | log (xs : List Access)
  | refused (e : Error)
  | unregistered (e : RegistrationError)
deriving DecidableEq, Repr

/-- Whether an answer is a refusal. -/
def Answer.isRefusal : Answer → Bool
  | .refused _ | .unregistered _ => true
  | .done | .byte _ | .log _ => false

/-- What a bus answers to a request, and the bus that is left. -/
def ask (b : Bus) : Request → Bus × Answer
  | .register first last part =>
    match b.register first last part with
    | .ok b' => (b', .done)
    | .error e => (b, .unregistered e)
  | .read a =>
    match b.tryRead a with
    | (b, .ok d) => (b, .byte d)
    | (b, .error e) => (b, .refused e)
  | .write a data =>
    match b.tryWrite a data with
    | (b, none) => (b, .done)
    | (b, some e) => (b, .refused e)
  | .peek a =>
    match b.peek a with
    | .ok d => (b, .byte d)
    | .error e => (b, .refused e)
  | .drain => (b.drain.2, .log b.drain.1)
  | .clear => (b.clear, .done)

/-- A request with its answer. -/
structure Exchange where
  request : Request
  answer : Answer
deriving Repr

/-- The bus after some requests. -/
def afterAll (b : Bus) (qs : List Request) : Bus := qs.foldl (fun b q => (b.ask q).1) b

/-- The exchanges that some requests lead to. -/
def exchanges (b : Bus) : List Request → List Exchange
  | [] => []
  | q :: qs => ⟨q, (b.ask q).2⟩ :: (b.ask q).1.exchanges qs

/-- The cells are cleared by an exchange. -/
def Exchange.clears (e : Exchange) : Bool :=
  match e.request with
  | .clear => true
  | _ => false

/-- The access log is emptied by an exchange. -/
def Exchange.empties (e : Exchange) : Bool :=
  match e.request with
  | .clear | .drain => true
  | _ => false

/-- The access that an exchange made, if it made one. -/
def Exchange.access? : Exchange → Option Access
  | ⟨.read a, .byte d⟩ => some ⟨a, d.toNat, .read⟩
  | ⟨.write a data, .done⟩ => some ⟨a, data, .write⟩
  | _ => none

/-- The byte that an exchange stored in a place, if it stored one there. -/
def Exchange.stored? (b : Bus) (c : Cell) : Exchange → Option UInt8
  | ⟨.write a data, .done⟩ =>
    match b.resolve a with
    | .ok c' => if c' = c then some (Byte.ofInt data) else none
    | .error _ => none
  | _ => none

/-- The byte that was stored in a place last, since the last clear. Without one there is a zero. -/
def lastStored (b : Bus) (c : Cell) (es : List Exchange) : UInt8 :=
  ((es.rtakeWhile fun e => !e.clears).reverse.findSome? (·.stored? b c)).getD 0

/-- The accesses that were made since the log was emptied last, in order. -/
def logged (es : List Exchange) : List Access :=
  (es.rtakeWhile fun e => !e.empties).filterMap Exchange.access?

/-- A part brings no bytes with it: a device that is added is a new memory. -/
def Part.IsBlank : Part → Prop
  | .fresh d => ∃ r : Ram, r.IsNew ∧ d = .ram r
  | .again _ | .foreign => True

/-- A request brings no bytes to a bus but those that it writes. -/
def Request.IsBlank : Request → Prop
  | .register _ _ part => part.IsBlank
  | _ => True

variable {b b' : Bus} {a data first last : Int} {part : Part} {c : Cell} {q : Request} {qs : List Request}
  {e : Exchange} {es : List Exchange}

theorem afterAll_concat (b : Bus) (qs : List Request) (q : Request) :
    b.afterAll (qs ++ [q]) = ((b.afterAll qs).ask q).1 :=
  List.foldl_concat ..

theorem exchanges_concat (b : Bus) (qs : List Request) (q : Request) :
    b.exchanges (qs ++ [q]) = b.exchanges qs ++ [⟨q, ((b.afterAll qs).ask q).2⟩] := by
  induction qs generalizing b with
  | nil => rfl
  | cons p qs ih =>
    simp only [List.cons_append, exchanges, ih]
    rfl

theorem lastStored_concat (b : Bus) (c : Cell) (es : List Exchange) (e : Exchange) :
    lastStored b c (es ++ [e]) = if e.clears then 0 else (e.stored? b c).getD (lastStored b c es) := by
  unfold lastStored
  rw [List.rtakeWhile_concat]
  cases e.clears with
  | true => rfl
  | false =>
    simp only [Bool.not_false, if_true, Bool.false_eq_true, if_false, List.reverse_append,
      List.reverse_singleton, List.singleton_append, List.findSome?_cons]
    cases e.stored? b c <;> rfl

theorem logged_concat (es : List Exchange) (e : Exchange) :
    logged (es ++ [e]) = if e.empties then [] else logged es ++ e.access?.toList := by
  unfold logged
  rw [List.rtakeWhile_concat]
  cases e.empties with
  | true => rfl
  | false =>
    simp only [Bool.not_false, if_true, Bool.false_eq_true, if_false, List.filterMap_append]
    cases h : e.access? <;> simp [h]

/-! ## Where addresses lead -/

/-- The range that was registered first decides, so a later one takes no address from it. -/
theorem resolve_register (h : b.register first last part = .ok b') (hc : b.resolve a = .ok c) :
    b'.resolve a = .ok c := by
  obtain ⟨m, mappings⟩ : ∃ m, b'.mappings = b.mappings ++ [m] := by
    cases adds_of_register h <;> exact ⟨_, rfl⟩
  unfold resolve at hc ⊢
  rw [mappings, List.find?_append]
  cases found : b.mappings.find? (·.holds a) with
  | none =>
    rw [found] at hc
    cases hc
  | some n =>
    rw [found] at hc
    exact hc

/-- A device that is added is a new memory. -/
theorem exists_new_of_register (h : b.register first last part = .ok b') (blank : part.IsBlank) {k : Nat}
    (new : ¬ k < b.devices.size) (hk : k < b'.devices.size) : ∃ r : Ram, r.IsNew ∧ b'.device k = .ram r := by
  cases adds_of_register h with
  | range => exact absurd hk new
  | device =>
    obtain ⟨r, made, rfl⟩ := blank
    rw [Array.size_push] at hk
    refine ⟨r, made, ?_⟩
    rw [device, show k = b.devices.size by omega]
    simp [Array.getD]

/-- The ways in which an exchange goes, with the bus that is left. -/
inductive Takes (b : Bus) : Request → Bus → Answer → Prop where
  | registers {first last : Int} {part : Part} {b' : Bus} : b.register first last part = .ok b' →
    Takes b (.register first last part) b' .done
  | reads {a : Int} {d : UInt8} : b.peek a = .ok d →
    Takes b (.read a) (b.record ⟨a, d.toNat, .read⟩) (.byte d)
  | writes {a data : Int} {b' : Bus} : b.poke a data = .ok b' →
    Takes b (.write a data) (b'.record ⟨a, data, .write⟩) .done
  | peeks {a : Int} {d : UInt8} : b.peek a = .ok d → Takes b (.peek a) b (.byte d)
  | drains : Takes b .drain b.dropLog (.log b.log)
  | clears : Takes b .clear b.clear .done
  | refuses {q : Request} {answer : Answer} : answer.isRefusal = true →
    (⟨q, answer⟩ : Exchange).empties = false → Takes b q b answer

theorem takes_ask (b : Bus) (q : Request) : b.Takes q (b.ask q).1 (b.ask q).2 := by
  cases q with
  | register first last part =>
    simp only [ask]
    cases registered : b.register first last part with
    | error e => exact .refuses rfl rfl
    | ok b' => exact .registers registered
  | read a =>
    rw [ask, tryRead_eq]
    cases byte : b.peek a with
    | error e => exact .refuses rfl rfl
    | ok d => exact .reads byte
  | write a data =>
    rw [ask, tryWrite_eq, write_eq]
    cases stored : b.poke a data with
    | error e => exact .refuses rfl rfl
    | ok b' => exact .writes stored
  | peek a =>
    simp only [ask]
    cases byte : b.peek a with
    | error e => exact .refuses rfl rfl
    | ok d => exact .peeks byte
  | drain => exact .drains
  | clear => exact .clears

/-- Only a registration changes where addresses lead, and it leaves alone those that lead somewhere. -/
theorem Takes.resolve {answer : Answer} (h : b.Takes q b' answer) (hc : b.resolve a = .ok c) :
    b'.resolve a = .ok c := by
  cases h with
  | registers registered => exact resolve_register registered hc
  | writes stored => exact (resolve_of_layout (layout_poke stored) a).trans hc
  | clears => exact (resolve_of_layout (layout_clear b) a).trans hc
  | reads _ | peeks _ | drains | refuses _ _ => exact hc

/-- An address goes on leading to the same place, whatever is asked. -/
theorem resolve_afterAll (h : b.resolve a = .ok c) (qs : List Request) :
    (b.afterAll qs).resolve a = .ok c := by
  induction qs generalizing b with
  | nil => exact h
  | cons q qs ih => exact ih ((b.takes_ask q).resolve h)

/-! ## What is stored -/

/-- The writes of some exchanges went to addresses that are mapped. -/
def Mapped (b : Bus) (es : List Exchange) : Prop :=
  ∀ a data, ⟨.write a data, .done⟩ ∈ es → b.IsMapped a

/-- What is mapped stays so. -/
theorem Mapped.concat {answer : Answer} (h : b.Mapped es) (takes : b.Takes q b' answer)
    (new : ∀ a data, e = ⟨.write a data, .done⟩ → b.IsMapped a) : b'.Mapped (es ++ [e]) := by
  intro a data he
  have before : b.IsMapped a := by
    rcases List.mem_append.mp he with earlier | last
    · exact h a data earlier
    · exact new a data (List.mem_singleton.mp last).symm
  obtain ⟨c, leads⟩ := resolve_of_isMapped before
  exact isMapped_of_resolve (takes.resolve leads)

/-- The bytes of earlier writes stay in the same places. -/
theorem Takes.lastStored {answer : Answer} (h : b.Takes q b' answer) (mapped : b.Mapped es) (c : Cell) :
    lastStored b' c es = lastStored b c es := by
  have same (e : Exchange) (he : e ∈ es) : e.stored? b' c = e.stored? b c := by
    obtain ⟨request, answer⟩ := e
    cases request with
    | write a data =>
      cases answer with
      | done =>
        obtain ⟨c', leads⟩ := resolve_of_isMapped (mapped a data he)
        simp only [Exchange.stored?, leads, h.resolve leads]
      | _ => rfl
    | _ => rfl
  have recent (e : Exchange) (he : e ∈ (es.rtakeWhile fun e => !e.clears).reverse) : e ∈ es :=
    (List.rtakeWhile_suffix _ es).subset (List.mem_reverse.mp he)
  unfold Bus.lastStored
  congr 1
  generalize (es.rtakeWhile fun e => !e.clears).reverse = since at recent
  induction since with
  | nil => rfl
  | cons e since ih =>
    rw [List.findSome?_cons, List.findSome?_cons, same e (recent e (List.mem_cons_self ..)),
      ih fun e he => recent e (List.mem_cons_of_mem _ he)]

/-- Only a write that is not refused stores a byte. -/
theorem Exchange.stored?_eq_none (h : ∀ a data, e ≠ ⟨.write a data, .done⟩) : e.stored? b c = none := by
  unfold stored?
  split
  · exact absurd rfl (h _ _)
  · rfl

/-- A place that no address leads to has got no byte. -/
theorem lastStored_of_unreached (h : ∀ a, b.resolve a ≠ .ok c) (es : List Exchange) :
    lastStored b c es = 0 := by
  have none (e : Exchange) : e.stored? b c = none := by
    unfold Exchange.stored?
    split
    · split
      · rename_i leads
        rw [if_neg]
        rintro rfl
        exact h _ leads
      · rfl
    · rfl
  unfold lastStored
  rw [List.findSome?_eq_none_iff.mpr fun e _ => none e, Option.getD_none]

/-- What a memory takes is a byte. -/
theorem byte_of_write {r r' : Ram} (h : r.write a data = .ok r') : 0 ≤ data ∧ data ≤ 255 := by
  rw [Ram.write_eq] at h
  obtain ⟨k, -, h⟩ := exists_of_bind_eq_ok h
  split at h
  · cases h
  · omega

theorem byte_of_poke (cell : b.IsCell c) (hc : b.resolve a = .ok c) (h : b.poke a data = .ok b') :
    0 ≤ data ∧ data ≤ 255 := by
  obtain ⟨r, hr, -⟩ := cell.exists_ram
  obtain ⟨c', d, hc', hd, -⟩ := exists_of_poke h
  cases hc.symm.trans hc'
  rw [hr, Device.write_ram] at hd
  cases hw : r.write c.offset data with
  | error e => rw [hw] at hd; cases hd
  | ok r' => exact byte_of_write hw

/-- What is known of a bus from the exchanges with it. -/
structure Recalls (b : Bus) (es : List Exchange) : Prop where
  sound : b.Sound
  /-- Every device is a memory. -/
  memory : ∀ k < b.devices.size, ∃ n, (b.device k).cells? = some n
  mapped : b.Mapped es
  /-- A cell holds the byte that was stored in it last. -/
  content : ∀ c, b.IsCell c → b.content c = .ok (lastStored b c es)
  log : b.log = logged es

theorem recalls_empty : empty.Recalls [] where
  sound := Built.empty.sound
  memory := nofun
  mapped := nofun
  content c cell := by
    obtain ⟨r, -, -, -, lt⟩ := cell.exists_ram
    cases lt
  log := rfl

namespace Recalls

variable {answer : Answer}

theorem memory_of_layout (h : b.Recalls es) (layout : b'.layout = b.layout) :
    ∀ k < b'.devices.size, ∃ n, (b'.device k).cells? = some n := by
  intro k hk
  rw [numberOfDevices_of_layout layout] at hk
  rw [cells?_of_layout layout]
  exact h.memory k hk

/-- Where an address leads, there is a cell. -/
theorem isCell (h : b.Recalls es) (hc : b.resolve a = .ok c) : b.IsCell c := by
  obtain ⟨n, cells⟩ := h.memory c.device (h.sound.resolve_device_lt hc)
  cases hd : b.device c.device with
  | latch x => rw [hd] at cells; cases cells
  | ram r =>
    obtain ⟨low, high⟩ := h.sound.resolve_offset hc hd
    exact ⟨r.size, congrArg Device.cells? hd, low, high⟩

/-- An exchange that stores nothing and leaves the devices as they are. -/
theorem still (h : b.Recalls es) (takes : b.Takes q b' answer) (layout : b'.layout = b.layout)
    (devices : b'.devices = b.devices) (keeps : (⟨q, answer⟩ : Exchange).clears = false)
    (reads : ∀ a data, (⟨q, answer⟩ : Exchange) ≠ ⟨.write a data, .done⟩)
    (log : b'.log = logged (es ++ [⟨q, answer⟩])) : b'.Recalls (es ++ [⟨q, answer⟩]) where
  sound := h.sound.of_layout layout
  memory := h.memory_of_layout layout
  mapped := h.mapped.concat takes fun a data same => absurd same (reads a data)
  content c cell := by
    have same : b'.content c = b.content c := by
      simp only [Bus.content, device, devices]
    rw [lastStored_concat, keeps, if_neg Bool.false_ne_true, Exchange.stored?_eq_none reads, Option.getD_none,
      takes.lastStored h.mapped, same, h.content c ((isCell_of_layout layout).mp cell)]
  log := log

/-- The place that is written to gets the byte, and the others keep theirs. -/
theorem content_write (h : b.Recalls es) (stored : b.poke a data = .ok b') (cell : b'.IsCell c) :
    b'.content c = .ok (lastStored b' c (es ++ [⟨.write a data, .done⟩])) := by
  have layout := layout_poke stored
  obtain ⟨c', d, leads, -, -⟩ := exists_of_poke stored
  have cell : b.IsCell c := (isCell_of_layout layout).mp cell
  have before : lastStored b' c es = lastStored b c es :=
    (Takes.writes stored).lastStored h.mapped c
  have put : (⟨.write a data, .done⟩ : Exchange).stored? b' c =
      if c' = c then some (Byte.ofInt data) else none := by
    simp only [Exchange.stored?, resolve_of_layout layout, leads]
  rw [lastStored_concat, show (⟨.write a data, .done⟩ : Exchange).clears = false from rfl,
    if_neg Bool.false_ne_true, put, before]
  by_cases here : c' = c
  · subst here
    obtain ⟨low, high⟩ := byte_of_poke cell leads stored
    rw [if_pos rfl, Option.getD_some, content_poke_self cell leads low high stored]
  · have elsewhere : b.resolve a ≠ .ok c := fun hc => here (Except.ok.inj (leads.symm.trans hc))
    rw [if_neg here, Option.getD_none, content_poke_of_ne cell elsewhere stored, h.content c cell]

/-- A clear sets every cell to zero. -/
theorem content_clear (es : List Exchange) (cell : b.clear.IsCell c) :
    b.clear.content c = .ok (lastStored b.clear c (es ++ [⟨.clear, .done⟩])) := by
  obtain ⟨r, hr, low, high, lt⟩ := ((isCell_of_layout (layout_clear b)).mp cell).exists_ram
  have cleared : b.clear.device c.device = .ram r.clear := by
    have here : b.devices[c.device] = .ram r := by
      simpa [device, Array.getD, lt] using hr
    simp [device, clear, Array.getD, lt, here, Device.clear]
  rw [content_ram cleared low (by rw [Ram.size_clear]; exact high), lastStored_concat]
  exact congrArg Except.ok (Ram.getD_zeros _ _)

/-- A new memory holds zeros, and the others keep their bytes. -/
theorem content_register (h : b.Recalls es) (registered : b.register first last part = .ok b')
    (blank : part.IsBlank) (cell : b'.IsCell c) :
    b'.content c = .ok (lastStored b' c (es ++ [⟨.register first last part, .done⟩])) := by
  have before : lastStored b' c es = lastStored b c es :=
    (Takes.registers registered).lastStored h.mapped c
  rw [lastStored_concat, show (⟨.register first last part, .done⟩ : Exchange).clears = false from rfl,
    if_neg Bool.false_ne_true, show (⟨.register first last part, .done⟩ : Exchange).stored? b' c = none from rfl,
    Option.getD_none, before]
  by_cases old : c.device < b.devices.size
  · have same : b'.device c.device = b.device c.device := (adds_of_register registered).device_eq old
    have there : b.IsCell c := by
      unfold IsCell at cell ⊢
      rwa [same] at cell
    rw [Bus.content, same]
    exact h.content c there
  · obtain ⟨r, hr, low, high, lt⟩ := cell.exists_ram
    obtain ⟨r', new, added⟩ := exists_new_of_register registered blank old lt
    cases hr.symm.trans added
    have unreached (a : Int) : b.resolve a ≠ .ok c := fun hc => old (h.sound.resolve_device_lt hc)
    rw [lastStored_of_unreached unreached, content_ram hr low high, new.cells_eq, Ram.getD_zeros]

theorem memory_register (h : b.Recalls es) (registered : b.register first last part = .ok b')
    (blank : part.IsBlank) : ∀ k < b'.devices.size, ∃ n, (b'.device k).cells? = some n := by
  intro k hk
  by_cases old : k < b.devices.size
  · rw [(adds_of_register registered).device_eq old]
    exact h.memory k old
  · obtain ⟨r, -, added⟩ := exists_new_of_register registered blank old hk
    refine ⟨r.size, ?_⟩
    rw [added]
    rfl

/-- One more exchange. -/
theorem ask (h : b.Recalls es) (blank : q.IsBlank) : (b.ask q).1.Recalls (es ++ [⟨q, (b.ask q).2⟩]) := by
  have takes := b.takes_ask q
  generalize (b.ask q).1 = b', (b.ask q).2 = answer at takes ⊢
  have log := logged_concat es ⟨q, answer⟩
  cases takes with
  | registers registered =>
    have same : b'.log = b.log := by cases adds_of_register registered <;> rfl
    exact {
      sound := h.sound.register registered
      memory := h.memory_register registered blank
      mapped := h.mapped.concat (.registers registered) nofun
      content := fun c cell => h.content_register registered blank cell
      log := by rw [same, h.log, log]; exact (List.append_nil _).symm }
  | reads byte => exact h.still (.reads byte) rfl rfl rfl nofun (by rw [log, ← h.log]; rfl)
  | writes stored =>
    have layout := layout_poke stored
    exact {
      sound := h.sound.of_layout layout
      memory := h.memory_of_layout layout
      mapped := h.mapped.concat (.writes stored) fun a data same => by
        cases same
        obtain ⟨c, d, leads, -⟩ := exists_of_poke stored
        exact isMapped_of_resolve leads
      content := fun c cell => by
        have written := h.content_write (c := c) stored cell
        exact written
      log := by rw [log, ← h.log, ← log_poke stored]; rfl }
  | peeks byte =>
    exact h.still (.peeks byte) rfl rfl rfl nofun
      (by rw [log, ← h.log]; exact (List.append_nil _).symm)
  | drains => exact h.still .drains rfl rfl rfl nofun (by rw [log]; rfl)
  | clears =>
    have layout := layout_clear b
    exact {
      sound := h.sound.of_layout layout
      memory := h.memory_of_layout layout
      mapped := h.mapped.concat .clears nofun
      content := fun c cell => content_clear es cell
      log := by rw [log]; rfl }
  | refuses refusal full =>
    have nothing : (⟨q, answer⟩ : Exchange).access? = none := by
      cases answer <;> cases refusal <;> cases q <;> rfl
    refine h.still (.refuses refusal full) rfl rfl ?_ ?_ ?_
    · cases q with
      | clear => cases full
      | _ => rfl
    · rintro a data ⟨⟩
      cases refusal
    · rw [log, full, nothing, ← h.log]
      exact (List.append_nil _).symm

end Recalls

theorem recalls_afterAll (blank : ∀ q ∈ qs, q.IsBlank) : (empty.afterAll qs).Recalls (empty.exchanges qs) := by
  induction qs using List.reverseRecOn with
  | nil => exact recalls_empty
  | append_singleton qs q ih =>
    rw [afterAll_concat, exchanges_concat]
    have before := ih fun p hp => blank p (List.mem_append_left _ hp)
    exact before.ask (blank q (List.mem_append_right _ (List.mem_singleton_self q)))

/-! ## What is answered -/

/-- Only an address where nothing is mapped leads nowhere. -/
theorem eq_unmapped_of_resolve {e : Error} (h : b.resolve a = .error e) : e = .unmapped a := by
  by_cases mapped : b.IsMapped a
  · obtain ⟨c, hc⟩ := resolve_of_isMapped mapped
    cases h.symm.trans hc
  · exact Except.error.inj (h.symm.trans (resolve_of_not_isMapped mapped))

/-- A refusal leaves a bus as it is. -/
theorem Takes.eq_of_isRefusal {answer : Answer} (h : b.Takes q b' answer) (refusal : answer.isRefusal = true) :
    b' = b := by
  cases h with
  | refuses => rfl
  | _ => cases refusal

namespace Recalls

variable {answer : Answer}

/-- The byte at an address is the one that was stored last in the place where the address leads. -/
theorem peek (h : b.Recalls es) (hc : b.resolve a = .ok c) : b.peek a = .ok (lastStored b c es) := by
  rw [peek_eq_content hc, h.content c (h.isCell hc)]

/-- What a read and a peek are answered. -/
theorem answer_of_reads (h : b.Recalls es) (reads : q = .read a ∨ q = .peek a) :
    (∀ c, b.resolve a = .ok c → (b.ask q).2 = .byte (lastStored b c es)) ∧
    ∀ e, b.resolve a = .error e → (b.ask q).2 = .refused e := by
  have refused {e : Error} (none : b.resolve a = .error e) : b.peek a = .error e := by
    rw [Bus.peek, none]
    rfl
  rcases reads with rfl | rfl
  · refine ⟨fun c hc => ?_, fun e none => ?_⟩
    · rw [Bus.ask, tryRead_eq, h.peek hc]
    · rw [Bus.ask, tryRead_eq, refused none]
  · refine ⟨fun c hc => ?_, fun e none => ?_⟩
    · simp only [Bus.ask, h.peek hc]
    · simp only [Bus.ask, refused none]

/-- What a write is answered: a place takes every byte, and nothing else. -/
theorem answer_of_write (h : b.Recalls es) (a data : Int) :
    (∀ e, b.resolve a = .error e → (b.ask (.write a data)).2 = .refused e) ∧
    ∀ c, b.resolve a = .ok c → (b.ask (.write a data)).2 =
      if 0 ≤ data ∧ data ≤ 255 then .done else .refused (.notByte data) := by
  refine ⟨fun e none => ?_, fun c hc => ?_⟩
  · rw [Bus.ask, tryWrite_eq, write_eq, poke_eq, none]
    rfl
  obtain ⟨r, hr, low, high, -⟩ := (h.isCell hc).exists_ram
  split
  · rename_i byte
    obtain ⟨b', written⟩ := h.sound.exists_write (isMapped_of_resolve hc) byte.1 byte.2
    rw [Bus.ask, tryWrite_eq, written]
  · have refused : r.write c.offset data = .error (.notByte data) := by
      simp only [Ram.write_eq, Ram.cell?_of_lt low high, bind, Except.bind]
      rw [if_pos (by omega)]
      rfl
    simp only [Bus.ask, tryWrite_eq, write_eq, poke_eq, hc, hr, bind, Except.bind, Device.write_ram, refused]
    rfl

/-- No memory is asked for a cell that it does not have. -/
theorem answer_ne_outsideRam (h : b.Recalls es) (q : Request) (address size : Number) :
    (b.ask q).2 ≠ .refused (.outsideRam address size) := by
  intro refused
  have reads (a : Int) (reads : q = .read a ∨ q = .peek a) : False := by
    obtain ⟨byte, unmapped⟩ := h.answer_of_reads reads
    cases resolved : b.resolve a with
    | ok c => cases refused.symm.trans (byte c resolved)
    | error e =>
      cases refused.symm.trans (unmapped e resolved)
      cases eq_unmapped_of_resolve resolved
  cases q with
  | read a => exact reads a (.inl rfl)
  | peek a => exact reads a (.inr rfl)
  | write a data =>
    obtain ⟨unmapped, takes⟩ := h.answer_of_write a data
    cases resolved : b.resolve a with
    | ok c =>
      rw [takes c resolved] at refused
      split at refused <;> cases refused
    | error e =>
      cases refused.symm.trans (unmapped e resolved)
      cases eq_unmapped_of_resolve resolved
  | register first last part =>
    simp only [Bus.ask] at refused
    split at refused <;> cases refused
  | drain | clear => cases refused

end Recalls

/-- A bus of memories that were new when they were registered, whatever was asked of it. Where an address leads,
it leads ever after. A read and a peek are refused where nothing is mapped, and otherwise answered with the byte
that was stored last in the place where the address leads, through whatever address, since the last clear; if
there was none, with zero. Such a place takes every byte. What is refused leaves the bus as it is, and no
memory refuses a cell. The log lists the reads and writes since it was emptied that were not refused. -/
theorem memory_with_log (blank : ∀ q ∈ qs, q.IsBlank) :
    let b := empty.afterAll qs
    let es := empty.exchanges qs
    (∀ a c more, b.resolve a = .ok c → (b.afterAll more).resolve a = .ok c) ∧
    (∀ a q, q = .read a ∨ q = .peek a →
      (∀ c, b.resolve a = .ok c → (b.ask q).2 = .byte (lastStored b c es)) ∧
      ∀ e, b.resolve a = .error e → (b.ask q).2 = .refused e) ∧
    (∀ a data, (∀ e, b.resolve a = .error e → (b.ask (.write a data)).2 = .refused e) ∧
      ∀ c, b.resolve a = .ok c → (b.ask (.write a data)).2 =
        if 0 ≤ data ∧ data ≤ 255 then .done else .refused (.notByte data)) ∧
    (∀ q, (b.ask q).2.isRefusal = true → (b.ask q).1 = b) ∧
    (∀ q address size, (b.ask q).2 ≠ .refused (.outsideRam address size)) ∧
    (b.ask .drain).2 = .log (logged es) := by
  intro b es
  have recalls : b.Recalls es := recalls_afterAll blank
  refine ⟨fun a c more hc => resolve_afterAll hc more, fun a q reads => recalls.answer_of_reads reads,
    recalls.answer_of_write, fun q refusal => (b.takes_ask q).eq_of_isRefusal refusal,
    recalls.answer_ne_outsideRam, ?_⟩
  exact congrArg Answer.log recalls.log

/-- A memory of four cells at two ranges that overlap. A byte is written through one of them, and read through
the other, after two writes that are refused. -/
def overlapped : List Request :=
  [.register 0 3 (.fresh (.ram (Ram.zeros 4))), .register 2 5 (.again 0), .write 2 7, .write 4 256,
    .write 9 1, .read 4]

/-- Address four leads to the cell of address two, and the log lists what was not refused. -/
theorem memory_with_log_overlapped : (∀ q ∈ overlapped, q.IsBlank) ∧
    ((empty.afterAll overlapped).ask (.peek 4)).2 = .byte 7 ∧
    ((empty.afterAll overlapped).ask (.read 3)).2 = .byte 0 ∧
    ((empty.afterAll overlapped).ask .drain).2 = .log [⟨2, 7, .write⟩, ⟨4, 7, .read⟩] := by
  have blank : ∀ q ∈ overlapped, q.IsBlank := by
    intro q hq
    simp only [overlapped, List.mem_cons, List.not_mem_nil, or_false] at hq
    rcases hq with rfl | rfl | rfl | rfl | rfl | rfl
    · exact ⟨_, .inl ⟨4, rfl⟩, rfl⟩
    all_goals trivial
  have facts : (empty.afterAll overlapped).resolve 4 = .ok ⟨0, 2⟩ ∧
      (empty.afterAll overlapped).resolve 3 = .ok ⟨0, 3⟩ ∧
      lastStored (empty.afterAll overlapped) ⟨0, 2⟩ (empty.exchanges overlapped) = 7 ∧
      lastStored (empty.afterAll overlapped) ⟨0, 3⟩ (empty.exchanges overlapped) = 0 ∧
      logged (empty.exchanges overlapped) = [⟨2, 7, .write⟩, ⟨4, 7, .read⟩] := by
    decide +kernel
  obtain ⟨four, three, seven, zero, log⟩ := facts
  obtain ⟨-, reads, -, -, -, drained⟩ := memory_with_log blank
  refine ⟨blank, ?_, ?_, ?_⟩
  · rw [(reads 4 _ (.inr rfl)).1 _ four, seven]
  · rw [(reads 3 _ (.inl rfl)).1 _ three, zero]
  · rw [drained, log]

end Bus

end Hexscope
