import DlmsGateway.Lib.Bytes
import Mathlib.Algebra.Group.Nat.Defs
import Mathlib.Data.List.Chain

/-!
# Records in memory

A program fills a record member by member, numbers with their least significant
byte first.  A copy may be longer than its member and then runs on into the
members behind it; a member that is stored later is not disturbed by that.
-/
set_option autoImplicit false
namespace ByteStore

/-! ## Numbers -/

def numberByte (v k : Nat) : UInt8 := UInt8.ofNat (v / 256 ^ k)

def number (f : Nat → UInt8) : Nat → Nat
  | 0 => 0
  | len + 1 => number f len + 256 ^ len * (f len).toNat

theorem number_congr {f g : Nat → UInt8} :
    ∀ len, (∀ k, k < len → f k = g k) → number f len = number g len := by
  intro len
  induction len with
  | zero => intro _; rfl
  | succ len ih =>
      intro same
      rw [number, number, same len (Nat.lt_succ_self len),
        ih fun k bound => same k (Nat.lt_succ_of_lt bound)]

theorem number_numberByte (v len : Nat) : number (numberByte v) len = v % 256 ^ len := by
  induction len with
  | zero => rw [number, Nat.pow_zero, Nat.mod_one]
  | succ len ih =>
      have byte : (numberByte v len).toNat = v / 256 ^ len % 256 := by simp [numberByte]
      rw [number, ih, byte, Nat.pow_succ, Nat.mod_mul]

/-! ## Stores -/

/-- `len` bytes of `src` stored to a member of `size` bytes at `pos`. -/
structure Store where
  pos : Nat
  size : Nat
  len : Nat
  src : Nat → UInt8

namespace Store

def assign (pos size v : Nat) : Store := ⟨pos, size, size, numberByte v⟩

/-- The member of `b` lies behind that of `a`. -/
def Before (a b : Store) : Prop := a.pos + a.size ≤ b.pos

/-- The later store `b` leaves the member of `a` alone. -/
def Spares (a b : Store) : Prop := a.Before b ∨ b.pos + b.len ≤ a.pos

instance : Trans Before Before Before where
  trans {a b c} first second := by
    unfold Before at *
    omega

theorem spares_of_ordered {stores : List Store} (ordered : stores.IsChain Before) :
    stores.Pairwise Spares :=
  ordered.pairwise.imp Or.inl

end Store

namespace Bytes
variable {n : Nat}

def storeAll (a : Bytes n) : List Store → Bytes n
  | [] => a
  | st :: stores => (a.copy st.pos st.src st.len).storeAll stores

theorem get_storeAll_outside (i : Nat) :
    ∀ (stores : List Store) (a : Bytes n),
      (∀ st ∈ stores, i < st.pos ∨ st.pos + st.len ≤ i) → (a.storeAll stores).get i = a.get i := by
  intro stores
  induction stores with
  | nil => intro a _; rfl
  | cons st stores ih =>
      intro a outside
      rw [storeAll, ih _ fun later member => outside later (List.mem_cons_of_mem st member)]
      exact get_copy_outside a st.pos st.src st.len (outside st List.mem_cons_self)

theorem get_storeAll {st : Store} {k : Nat} (stored : k < st.len) (inside : k < st.size)
    (bound : st.pos + k < n) :
    ∀ (stores : List Store) (a : Bytes n), stores.Pairwise Store.Spares → st ∈ stores →
      (a.storeAll stores).get (st.pos + k) = st.src k := by
  intro stores
  induction stores with
  | nil => intro a _ member; cases member
  | cons first stores ih =>
      intro a spares member
      rw [List.pairwise_cons] at spares
      rw [storeAll]
      rcases List.mem_cons.mp member with here | later
      · subst here
        rw [get_storeAll_outside, get_copy_inside a st.pos st.src stored bound]
        intro later among
        have apart := spares.1 later among
        unfold Store.Spares Store.Before at apart
        omega
      · exact ih _ spares.2 later

theorem number_storeAll {stores : List Store} (spares : stores.Pairwise Store.Spares)
    (a : Bytes n) {pos size v : Nat} (member : Store.assign pos size v ∈ stores)
    (bound : pos + size ≤ n) (fits : v < 256 ^ size) :
    number (fun k => (a.storeAll stores).get (pos + k)) size = v := by
  have bytes : ∀ k, k < size → (a.storeAll stores).get (pos + k) = numberByte v k := by
    intro k inside
    have within : pos + k < n := by omega
    exact get_storeAll inside inside within stores a spares member
  rw [number_congr size bytes, number_numberByte, Nat.mod_eq_of_lt fits]

end Bytes
end ByteStore
