/-!
# The queue of work

Workers share one queue.  An item is a request to be sent or the signal for
one worker to stop.  Beside the waiting items the queue counts the requests
that were put and not yet acknowledged; putting counts a request before it
becomes visible to the workers, and an acknowledgement that nothing is left
for changes nothing.

The program counts with 64-bit words.  Pools are described with natural numbers,
which makes no difference while fewer than 2⁶⁴ requests are unfinished
(`Counter.toNat_up`, `Counter.toNat_down`).
-/

namespace ReservationLoad.Work

/-- An entry of the queue. -/
inductive Item
  | request (id : UInt64)
  | shutdown
deriving DecidableEq

/-- A way to count what is not finished.  Counting down stops at zero. -/
class Counter (κ : Type) where
  zero : κ
  up : κ → κ
  down : κ → κ
  /-- So many times up from zero. -/
  ofWord : UInt64 → κ

/-- Natural numbers count without an end. -/
@[default_instance]
instance : Counter Nat where
  zero := 0
  up n := n + 1
  down n := n - 1
  ofWord := UInt64.toNat

/-- Words wrap around behind the greatest of them. -/
instance : Counter UInt64 where
  zero := 0
  up n := n + 1
  down n := if n = 0 then 0 else n - 1
  ofWord n := n

namespace Counter

@[simp]
theorem ofWord_eq_toNat (total : UInt64) : (ofWord total : Nat) = total.toNat := rfl

/-- Words count as numbers do up to the greatest word, -/
theorem toNat_up {n : UInt64} (fits : (up n.toNat : Nat) < UInt64.size) :
    (up n).toNat = up n.toNat := by
  change (n + 1).toNat = n.toNat + 1
  change n.toNat + 1 < UInt64.size at fits
  rw [UInt64.toNat_add, UInt64.toNat_one, Nat.mod_eq_of_lt fits]

/-- are never ahead of them, -/
theorem toNat_up_le (n : UInt64) : (up n).toNat ≤ up n.toNat := by
  change (n + 1).toNat ≤ n.toNat + 1
  rw [UInt64.toNat_add, UInt64.toNat_one]
  exact Nat.mod_le _ _

/-- and count down as they do. -/
theorem toNat_down (n : UInt64) : (down n).toNat = down n.toNat := by
  change (if n = 0 then 0 else n - 1).toNat = n.toNat - 1
  split
  case isTrue nothing => rw [nothing]; rfl
  case isFalse something =>
    have positive : 1 ≤ n := UInt64.le_iff_toNat_le.mpr <|
      Nat.one_le_iff_ne_zero.mpr fun zero => something (UInt64.toNat_inj.mp zero)
    rw [UInt64.toNat_sub_of_le n 1 positive, UInt64.toNat_one]

end Counter

/-- The waiting items, the next one first, and the number of requests that
are not finished. -/
structure Queue (κ : Type := Nat) where
  items : List Item
  unfinished : κ
deriving DecidableEq

namespace Queue

variable {κ : Type}

/-- Appends an item to the waiting ones. -/
def send (q : Queue κ) (item : Item) : Queue κ := { q with items := q.items ++ [item] }

/-- Takes the item that has waited longest, if one is waiting. -/
def take? (q : Queue κ) : Option (Item × Queue κ) :=
  match q.items with
  | [] => none
  | item :: later => some (item, { q with items := later })

/-- The number of waiting items, stop signals included. -/
def length (q : Queue κ) : Nat := q.items.length

def isEmpty (q : Queue κ) : Bool := q.items.isEmpty

/-- The requests numbered from one to `total`. -/
def requests (total : UInt64) : List Item :=
  (List.range total.toNat).map fun i => .request (UInt64.ofNat (i + 1))

variable [Counter κ]

def empty : Queue κ := ⟨[], Counter.zero⟩

/-- Counts an item that is about to be sent. -/
def announce (q : Queue κ) : Item → Queue κ
  | .request _ => { q with unfinished := Counter.up q.unfinished }
  | .shutdown => q

/-- Puts an item: it is counted and then sent. -/
def put (q : Queue κ) (item : Item) : Queue κ := (q.announce item).send item

/-- Puts items one after another. -/
def putAll (q : Queue κ) (items : List Item) : Queue κ := items.foldl put q

/-- Acknowledges one request; the count stops at zero. -/
def acknowledge (q : Queue κ) : Queue κ := { q with unfinished := Counter.down q.unfinished }

/-- The queue of a run: all requests, and behind them one stop signal for
each worker. -/
def seeded (total : UInt64) (workers : Nat) : Queue κ where
  items := requests total ++ List.replicate workers .shutdown
  unfinished := Counter.ofWord total

/-! ## What the operations do to the items and to the count -/

@[simp]
theorem items_put (q : Queue κ) (item : Item) : (q.put item).items = q.items ++ [item] := by
  cases item <;> rfl

@[simp]
theorem items_putAll (q : Queue κ) (items : List Item) :
    (q.putAll items).items = q.items ++ items := by
  induction items generalizing q with
  | nil => simp [putAll]
  | cons item later ih =>
    have tail := ih (q.put item)
    simpa [putAll] using tail

@[simp]
theorem items_announce (q : Queue κ) (item : Item) : (q.announce item).items = q.items := by
  cases item <;> rfl

@[simp]
theorem items_acknowledge (q : Queue κ) : q.acknowledge.items = q.items := rfl

@[simp]
theorem unfinished_put_request (q : Queue) (id : UInt64) :
    (q.put (.request id)).unfinished = q.unfinished + 1 := rfl

@[simp]
theorem unfinished_put_shutdown (q : Queue κ) : (q.put .shutdown).unfinished = q.unfinished := rfl

@[simp]
theorem unfinished_acknowledge (q : Queue) : q.acknowledge.unfinished = q.unfinished - 1 := rfl

omit [Counter κ]

@[simp]
theorem items_send (q : Queue κ) (item : Item) : (q.send item).items = q.items ++ [item] := rfl

@[simp]
theorem unfinished_send (q : Queue κ) (item : Item) :
    (q.send item).unfinished = q.unfinished := rfl

/-- Nothing can be taken just when nothing is waiting. -/
theorem take?_eq_none_iff {q : Queue κ} : q.take? = none ↔ q.items = [] := by
  cases q with
  | mk items unfinished => cases items <;> simp [take?]

/-- Taking removes the first waiting item and leaves the count alone. -/
theorem take?_eq_some_iff {q later : Queue κ} {item : Item} :
    q.take? = some (item, later) ↔
      q.items = item :: later.items ∧ later.unfinished = q.unfinished := by
  cases q with
  | mk items unfinished =>
    cases later with
    | mk rest count =>
      cases items with
      | nil => simp [take?]
      | cons first others =>
        simp only [take?, Option.some.injEq, Prod.mk.injEq, mk.injEq, List.cons.injEq]
        grind

end Queue

end ReservationLoad.Work
