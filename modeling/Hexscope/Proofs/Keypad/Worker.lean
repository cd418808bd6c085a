import Mathlib.Data.List.DropRight
import Hexscope.Argument.Keys

/-!
# A worker that waits for a key

One worker asks a keypad for keys, while keys go down and up (`Keypad.Request`). It gets a key at once, or it
parks; and whenever the keypad lets it through, it asks again. Whatever was asked of the keypad so far, every
key is where it was put last, and no key is down while the worker is parked (`Keypad.Tended`).

* `Keypad.Goes`: the three ways in which a request can go;
* `Keypad.Tended.ask`: one more request keeps a keypad tended;
* `Keypad.worker_gets_key`: what the worker gets, and what leaves it parked.
-/

namespace Hexscope.Keypad

/-- A keypad and its worker. -/
structure Attended where
  keypad : Keypad
  /-- The worker has asked for a key and has got none yet. -/
  parked : Bool
deriving Repr

/-- What is asked of a keypad. -/
inductive Request where
  | press (v : Value)
  | release (v : Value)
  | releaseAll
  | pressNamed (name : Text)
  | releaseNamed (name : Text)
  /-- The worker asks for a key. -/
  | wait

/-- What is answered to the one who asks. -/
inductive Reply where
  | done
  /-- Whether a host key is mapped. -/
  | mapped (b : Bool)
  | refused (e : Complaint)
  /-- The worker is parked already. -/
  | busy

/-- What a request leads to: the keypad and its worker, the reply, and the key that the worker returns with. -/
structure Turn where
  left : Attended
  reply : Reply
  got : Option Key

/-- Where a key can be put. -/
inductive Motion where
  | down
  | up
deriving DecidableEq, Repr

/-- The key that a request puts down. -/
def Request.pressed? (p : Keypad) : Request → Option Key
  | .press v => (keyOf v).toOption
  | .pressNamed name => p.named? name
  | .release _ | .releaseAll | .releaseNamed _ | .wait => none

/-- Whether a request puts a key up. -/
def Request.releases (p : Keypad) (k : Key) : Request → Bool
  | .release v => (keyOf v).toOption = some k
  | .releaseNamed name => p.named? name = some k
  | .releaseAll => true
  | .press _ | .pressNamed _ | .wait => false

/-- Where a request puts a key, if it does anything to it. -/
def Request.motion? (p : Keypad) (k : Key) (q : Request) : Option Motion :=
  if q.pressed? p = some k then some .down else if q.releases p k then some .up else none

/-- Where a key was put last. -/
def lastMotion? (p : Keypad) (k : Key) (qs : List Request) : Option Motion :=
  qs.reverse.findSome? (·.motion? p k)

namespace Attended

/-- The worker asks for a key. It returns with one, or stays. -/
def resume (s : Attended) : Attended × Option Key :=
  (⟨s.keypad.await.1, s.keypad.await.2.isNone⟩, s.keypad.await.2)

/-- A key goes down. If the worker is let through, it asks again. -/
def press (s : Attended) (k : Key) : Attended × Option Key :=
  let s' := { s with keypad := (s.keypad.press k).1 }
  if (s.keypad.press k).2 = 0 then (s', none) else s'.resume

/-- A request is made, and the worker goes on until it has returned or is parked. -/
def ask (s : Attended) : Request → Turn
  | .press v =>
    match keyOf v with
    | .ok k => ⟨(s.press k).1, .done, (s.press k).2⟩
    | .error e => ⟨s, .refused e, none⟩
  | .release v =>
    match keyOf v with
    | .ok k => ⟨{ s with keypad := s.keypad.release k }, .done, none⟩
    | .error e => ⟨s, .refused e, none⟩
  | .releaseAll => ⟨{ s with keypad := s.keypad.releaseAll }, .done, none⟩
  | .pressNamed name =>
    match s.keypad.named? name with
    | some k => ⟨(s.press k).1, .mapped true, (s.press k).2⟩
    | none => ⟨s, .mapped false, none⟩
  | .releaseNamed name =>
    match s.keypad.named? name with
    | some k => ⟨{ s with keypad := s.keypad.release k }, .mapped true, none⟩
    | none => ⟨s, .mapped false, none⟩
  | .wait => if s.parked then ⟨s, .busy, none⟩ else ⟨s.resume.1, .done, s.resume.2⟩

/-- What is left after some requests. -/
def after (s : Attended) (qs : List Request) : Attended := qs.foldl (fun s q => (s.ask q).left) s

theorem after_concat (s : Attended) (qs : List Request) (q : Request) :
    s.after (qs ++ [q]) = ((s.after qs).ask q).left := by
  simp only [after, List.foldl_append, List.foldl_cons, List.foldl_nil]

end Attended

variable {p p' : Keypad} {s : Attended} {q : Request} {qs : List Request} {k : Key}

theorem lastMotion?_concat (p : Keypad) (k : Key) (qs : List Request) (q : Request) :
    lastMotion? p k (qs ++ [q]) = (q.motion? p k).or (lastMotion? p k qs) := by
  simp only [lastMotion?, List.reverse_append, List.reverse_singleton, List.singleton_append,
    List.findSome?_cons]
  cases q.motion? p k <;> rfl

theorem named?_congr (names : p'.names = p.names) (name : Text) : p'.named? name = p.named? name := by
  rw [named?, named?, names]

/-- Only the names of a keypad tell which key a request is about. -/
theorem Request.pressed?_congr (names : p'.names = p.names) (q : Request) : q.pressed? p' = q.pressed? p := by
  cases q with
  | pressNamed name => exact named?_congr names name
  | _ => rfl

theorem Request.releases_congr (names : p'.names = p.names) (k : Key) (q : Request) :
    q.releases p' k = q.releases p k := by
  cases q with
  | releaseNamed name => simp only [releases, named?_congr names name]
  | _ => rfl

/-- A request that puts a key down puts none up. -/
theorem Request.releases_of_pressed? {j : Key} (pressed : q.pressed? p = some j) (k : Key) :
    q.releases p k = false := by
  cases q with
  | press | pressNamed => rfl
  | _ => cases pressed

/-! ## One request -/

/-- How a request can go. -/
inductive Goes (s : Attended) (q : Request) : Turn → Prop
  /-- A key goes down. -/
  | presses {k : Key} {reply : Reply} : q.pressed? s.keypad = some k →
    Goes s q ⟨(s.press k).1, reply, (s.press k).2⟩
  /-- Keys go up, or nothing happens, and the worker stays where it is. -/
  | spares {keypad : Keypad} {reply : Reply} : q.pressed? s.keypad = none →
    keypad.names = s.keypad.names → keypad.waiter = s.keypad.waiter →
    (∀ k, keypad.isDown k = (!q.releases s.keypad k && s.keypad.isDown k)) →
    Goes s q ⟨{ s with keypad }, reply, none⟩
  /-- The worker asks. -/
  | asks : q = .wait → s.parked = false → Goes s q ⟨s.resume.1, .done, s.resume.2⟩

/-- A request that does nothing. -/
theorem Goes.idle {reply : Reply} (none : q.pressed? s.keypad = none)
    (keeps : ∀ k, q.releases s.keypad k = false) : Goes s q ⟨s, reply, .none⟩ :=
  .spares none rfl rfl fun k => by rw [keeps k, Bool.not_false, Bool.true_and]

/-- A key goes up. -/
theorem Goes.release {reply : Reply} (none : q.pressed? s.keypad = none)
    (one : ∀ j, q.releases s.keypad j = decide (j = k)) :
    Goes s q ⟨{ s with keypad := s.keypad.release k }, reply, .none⟩ :=
  .spares none rfl rfl fun j => by rw [one j, isDown_release]

theorem goes_ask (s : Attended) (q : Request) : Goes s q (s.ask q) := by
  cases q with
  | press v =>
    rw [Attended.ask]
    split <;> rename_i e
    · exact .presses (by rw [Request.pressed?, e]; rfl)
    · exact .idle (by rw [Request.pressed?, e]; rfl) fun _ => rfl
  | release v =>
    rw [Attended.ask]
    split <;> rename_i e
    · exact .release rfl fun j => by simp [Request.releases, e, Except.toOption, eq_comm]
    · exact .idle rfl fun j => by simp [Request.releases, e, Except.toOption]
  | releaseAll =>
    exact .spares rfl rfl rfl fun k => by
      rw [isDown_releaseAll, Request.releases, Bool.not_true, Bool.false_and]
  | pressNamed name =>
    rw [Attended.ask]
    split <;> rename_i e
    · exact .presses e
    · exact .idle e fun _ => rfl
  | releaseNamed name =>
    rw [Attended.ask]
    split <;> rename_i e
    · exact .release rfl fun j => by simp [Request.releases, e, eq_comm]
    · exact .idle rfl fun j => by simp [Request.releases, e]
  | wait =>
    rw [Attended.ask]
    split <;> rename_i parked
    · exact .idle rfl fun _ => rfl
    · exact .asks rfl (Bool.eq_false_iff.mpr parked)

/-- What a request does that puts a key down. -/
theorem Goes.of_pressed? {turn : Turn} (goes : Goes s q turn) (pressed : q.pressed? s.keypad = some k) :
    turn.left = (s.press k).1 ∧ turn.got = (s.press k).2 := by
  cases goes with
  | presses other =>
    cases other.symm.trans pressed
    exact ⟨rfl, rfl⟩
  | spares none => cases none.symm.trans pressed
  | asks wait => cases (congrArg (Request.pressed? s.keypad) wait).symm.trans pressed

/-- A worker that is parked stays parked unless a key goes down. -/
theorem Goes.of_parked {turn : Turn} (goes : Goes s q turn) (parked : s.parked = true)
    (none : q.pressed? s.keypad = none) : turn.got = .none ∧ turn.left.parked = true := by
  cases goes with
  | presses pressed => cases none.symm.trans pressed
  | spares => exact ⟨rfl, parked⟩
  | asks _ free => cases free.symm.trans parked

/-! ## All requests -/

/-- After some requests to a keypad, every key is where it was put last, the gate of the keypad holds the
worker if it is parked and nobody else, and no key is down then. -/
structure Tended (p : Keypad) (qs : List Request) (s : Attended) : Prop where
  names : s.keypad.names = p.names
  down : ∀ k, s.keypad.isDown k = true ↔ lastMotion? p k qs = some .down
  waits : s.keypad.waiter.isWaiting = s.parked
  holds : s.keypad.waiter.parked = s.parked.toNat
  up : s.parked = true → ∀ k, s.keypad.isDown k = false

theorem tended_idle (names : List (Text × Key)) : Tended (idle names) [] ⟨idle names, false⟩ where
  names := rfl
  down k := by simp [idle, isDown, lastMotion?]
  waits := rfl
  holds := rfl
  up := nofun

/-- A press lets whoever is at the gate through. -/
theorem Tended.opened (h : Tended p qs s) (k : Key) : (s.keypad.press k).2 = s.parked.toNat ∧
    (s.keypad.press k).1.waiter.isWaiting = false ∧ (s.keypad.press k).1.waiter.parked = 0 := by
  have waits : (s.keypad.waiter.setPolicy false).isWaiting = s.parked := h.waits
  have holds : (s.keypad.waiter.setPolicy false).parked = s.parked.toNat := h.holds
  simp only [press, Gate.release, waits]
  cases parked : s.parked <;> rw [parked] at waits holds
  · exact ⟨rfl, waits, holds⟩
  · exact ⟨holds, rfl, rfl⟩

/-- A key that goes down lets the worker through, which returns with that key. -/
theorem Tended.press_eq (h : Tended p qs s) (k : Key) :
    s.press k = (⟨(s.keypad.press k).1, false⟩, if s.parked then some k else none) := by
  rw [Attended.press, (h.opened k).1]
  cases parked : s.parked with
  | false => rfl
  | true =>
    have first := first?_press (h.up parked) k
    simp only [Bool.toNat_true, Nat.one_ne_zero, if_false, Attended.resume, await, first]
    rfl

/-- A worker that asks while keys are down gets the lowest one. -/
theorem resume_of_first? (free : s.parked = false) (first : s.keypad.first? = some k) :
    s.resume = (s, some k) := by
  simp only [Attended.resume, await, first, Option.isNone_some, ← free]

/-- A worker that asks while no key is down parks. -/
theorem resume_of_up (up : s.keypad.first? = none) : s.resume =
    (⟨{ s.keypad with waiter := (s.keypad.waiter.setPolicy true).arrive.1 }, true⟩, none) := by
  simp only [Attended.resume, await, up]
  rfl

/-- Where the keys are after a request. -/
theorem isDown_ask (s : Attended) (q : Request) (k : Key) : (s.ask q).left.keypad.isDown k =
    (decide (q.pressed? s.keypad = some k) || (!q.releases s.keypad k && s.keypad.isDown k)) := by
  have goes := goes_ask s q
  generalize s.ask q = turn at goes
  cases goes with
  | @presses j _ pressed =>
    have puts : (s.press j).1.keypad.isDown k = (decide (k = j) || s.keypad.isDown k) := by
      rw [← isDown_press, Attended.press]
      split
      · rfl
      · exact isDown_await ..
    have same : decide (some j = some k) = decide (k = j) :=
      decide_eq_decide.mpr (Option.some_inj.trans eq_comm)
    rw [puts, pressed, Request.releases_of_pressed? pressed, same, Bool.not_false, Bool.true_and]
  | spares none _ _ keys =>
    rw [keys k, none]
    rfl
  | asks wait =>
    subst wait
    exact isDown_await ..

theorem Tended.ask (h : Tended p qs s) (q : Request) : Tended p (qs ++ [q]) (s.ask q).left := by
  have down (k : Key) : (s.ask q).left.keypad.isDown k = true ↔
      lastMotion? p k (qs ++ [q]) = some .down := by
    rw [isDown_ask, Request.pressed?_congr h.names, Request.releases_congr h.names,
      lastMotion?_concat, Request.motion?]
    by_cases pressed : q.pressed? p = some k
    · simp [pressed]
    · by_cases released : q.releases p k = true
      · simp [pressed, released]
      · simp [pressed, released, h.down k]
  have goes := goes_ask s q
  generalize s.ask q = turn at goes down
  cases goes with
  | presses =>
    -- Whoever was at the gate is let through, so the worker is not parked, and keys may be down.
    rw [h.press_eq] at down ⊢
    obtain ⟨-, waits, holds⟩ := h.opened _
    exact ⟨h.names, down, waits, holds, nofun⟩
  | spares none names waiter keys =>
    refine ⟨names.trans h.names, down, ?_, ?_, fun parked k => ?_⟩
    · rw [waiter, h.waits]
    · rw [waiter, h.holds]
    · rw [keys k, h.up parked k, Bool.and_false]
  | asks wait free =>
    cases first : s.keypad.first? with
    | some k =>
      rw [resume_of_first? free first] at down ⊢
      exact ⟨h.names, down, h.waits, h.holds, h.up⟩
    | none =>
      rw [resume_of_up first] at down ⊢
      refine ⟨h.names, down, rfl, ?_, fun _ => first?_eq_none_iff.mp first⟩
      -- The gate was empty before, because the only worker was not there.
      show s.keypad.waiter.parked + 1 = 1
      rw [h.holds, free]
      rfl

theorem Tended.after (h : Tended p [] s) (qs : List Request) : Tended p qs (s.after qs) := by
  induction qs using List.reverseRecOn with
  | nil => exact h
  | append_singleton qs q ih =>
    rw [Attended.after_concat]
    exact ih.ask q

/-- The keys that are down, in ascending order. -/
theorem Tended.pressed_eq (h : Tended p qs s) :
    s.keypad.pressed = (List.finRange 16).filter fun k => lastMotion? p k qs = some .down :=
  List.filter_congr fun k _ => Bool.eq_iff_iff.mpr ((h.down k).trans decide_eq_true_iff.symm)

/-- The first of the keys that are down is the lowest one. -/
theorem first?_eq_head?_pressed (p : Keypad) : p.first? = p.pressed.head? := List.head?_filter.symm

/-- The only key that is down after a press is that key, if all were up. -/
theorem pressed_press (up : ∀ j, p.isDown j = false) (k : Key) : (p.press k).1.pressed = [k] := by
  have one : (p.press k).1.isDown = fun j => decide (j = k) := by
    funext j
    rw [isDown_press, up j, Bool.or_false]
  have alone : ∀ k : Key, (List.finRange 16).filter (fun j => decide (j = k)) = [k] := by decide
  rw [pressed, one, alone k]

/-- A number that no key has is refused. -/
theorem keyOf_of_not_isPlace {v : Value} {x : Number} (number : v.number? = some x)
    (outside : x.isPlace 16 = false) : keyOf v = .error (.of (NoSuchKey.mk x)) := by
  have asked : Argument.number v = .ok x := by
    rw [Argument.number, number]
    rfl
  rw [keyOf, asked]
  cases x with
  | whole n =>
    have outside : ¬ (0 ≤ n ∧ n < 16) := by
      simpa [Number.isPlace, Number.isFrom_whole, Number.isBelow_whole] using outside
    show Argument.answer (key? n) = _
    rw [key?, dif_neg outside]
    rfl
  | truth b => cases b <;> cases outside
  | binary x =>
    show Except.error (if (Number.binary x).isPlace 16 = true then Argument.wrongForm else _) = _
    rw [outside]
    rfl

theorem exists_names_of_ofArgument {map : Value} (made : ofArgument map = .ok p) :
    ∃ names, p = idle names := by
  unfold ofArgument at made
  split at made
  · obtain ⟨names, -, rest⟩ := exists_of_bind_eq_ok made
    cases rest
    exact ⟨names, rfl⟩
  · split_ifs at made
    cases made
    exact ⟨standardNames, rfl⟩

/-- Whatever was asked of a keypad, the keys that are down are those that were put down last, and its worker is
parked if and only if the keypad says that somebody waits. No key is down then. A worker that asks while keys
are down returns with the lowest one at once. A worker that is parked returns when a key goes down, with that
key, which stays down, and in no other way. A number that is no key is refused, and nothing changes. -/
theorem worker_gets_key {map : Value} (made : ofArgument map = .ok p) (qs : List Request) :
    let s := Attended.after ⟨p, false⟩ qs
    s.keypad.pressed = (List.finRange 16).filter (fun k => lastMotion? p k qs = some .down) ∧
    (s.keypad.isWaiting = true ↔ s.parked = true) ∧
    (s.parked = true → s.keypad.pressed = []) ∧
    (s.parked = false →
      (∀ k ks, s.keypad.pressed = k :: ks → s.ask .wait = ⟨s, .done, some k⟩) ∧
      (s.keypad.pressed = [] → (s.ask .wait).left.parked = true ∧ (s.ask .wait).got = none)) ∧
    (s.parked = true → ∀ q : Request,
      (∀ k, q.pressed? p = some k → (s.ask q).got = some k ∧ (s.ask q).left.parked = false ∧
        (s.ask q).left.keypad.pressed = [k]) ∧
      (q.pressed? p = none → (s.ask q).got = none ∧ (s.ask q).left.parked = true)) ∧
    ∀ (v : Value) (x : Number), v.number? = some x → x.isPlace 16 = false →
      s.ask (.press v) = ⟨s, .refused (.of (NoSuchKey.mk x)), none⟩ ∧
      s.ask (.release v) = ⟨s, .refused (.of (NoSuchKey.mk x)), none⟩ := by
  intro s
  obtain ⟨names, rfl⟩ := exists_names_of_ofArgument made
  have h : Tended (idle names) qs s := (tended_idle names).after qs
  refine ⟨h.pressed_eq, ?waiting, ?up, fun free => ⟨?lowest, ?parks⟩, fun parked q => ⟨?wakes, ?stays⟩, ?outside⟩
  case waiting =>
    rw [isWaiting, h.waits]
  case up =>
    intro parked
    exact List.filter_eq_nil_iff.mpr fun k _ => Bool.eq_false_iff.mp (h.up parked k)
  case lowest =>
    intro k ks pressed
    have first : s.keypad.first? = some k := by rw [first?_eq_head?_pressed, pressed]; rfl
    rw [Attended.ask, free, resume_of_first? free first]
    rfl
  case parks =>
    intro pressed
    have up : s.keypad.first? = none := by rw [first?_eq_head?_pressed, pressed]; rfl
    rw [Attended.ask, free, resume_of_up up]
    exact ⟨rfl, rfl⟩
  case wakes =>
    intro k pressed
    rw [← Request.pressed?_congr h.names] at pressed
    obtain ⟨left, got⟩ := (goes_ask s q).of_pressed? pressed
    rw [left, got, h.press_eq, parked]
    exact ⟨rfl, rfl, pressed_press (h.up parked) k⟩
  case stays =>
    intro none
    rw [← Request.pressed?_congr h.names] at none
    exact (goes_ask s q).of_parked parked none
  case outside =>
    intro v x number outside
    simp only [Attended.ask, keyOf_of_not_isPlace number outside, and_self]

/-- The map of a keypad that has a host key of its own. -/
def ownMap : Value := .mapping [(.text "P", .int 5)]

/-- A worker is parked after a key has gone down and up again, and the host key that the map adds gets it going. -/
theorem worker_gets_key_own : ∃ p, ofArgument ownMap = .ok p ∧
    let s := Attended.after ⟨p, false⟩ [.press (.int 9), .releaseAll, .wait, .releaseNamed "q"]
    s.parked = true ∧ s.keypad.pressed = [] ∧ (s.ask (.pressNamed "p")).got = some 5 ∧
    (s.ask (.press (.int 16))).left = s := by
  obtain ⟨p, made, parked, named⟩ : ∃ p, ofArgument ownMap = .ok p ∧
      (Attended.after ⟨p, false⟩ [.press (.int 9), .releaseAll, .wait, .releaseNamed "q"]).parked = true ∧
      p.named? "p" = some 5 :=
    ⟨_, rfl, by decide +kernel, by decide +kernel⟩
  obtain ⟨-, -, up, -, wakes, refuses⟩ :=
    worker_gets_key made [.press (.int 9), .releaseAll, .wait, .releaseNamed "q"]
  obtain ⟨refused, -⟩ := refuses (.int 16) (.whole 16) rfl (by decide)
  refine ⟨p, made, parked, up parked, ((wakes parked (.pressNamed "p")).1 5 named).1, ?_⟩
  rw [refused]

end Hexscope.Keypad
