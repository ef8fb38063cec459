import Scaffold.Proofs.Outcome
import Scaffold.Proofs.Yaml.Value
import Scaffold.Yaml.Document

/-!
# Which values are read

A value that a text is read as is proper (`proper_of_read`). Values are built from the nodes of a
document, and the depth that is left bounds the recursion, also where an alias leads back to a node
that has been visited.

`Gives x P` says of a computation that counts aliases down that its value, if it has one, satisfies
`P`. It is what is proved of each step.
-/

namespace Scaffold.Yaml

variable {α β : Type}

/-- Whatever the computation comes to satisfies the predicate. -/
def Gives (x : StateT Nat (Except Error) α) (P : α → Prop) : Prop :=
  ∀ n a n', x.run n = .ok (a, n') → P a

namespace Gives

variable {x : StateT Nat (Except Error) α} {P Q : α → Prop}

theorem of_pure {a : α} (h : P a) : Gives (pure a) P := by
  intro n b n' hrun
  cases hrun
  exact h

theorem of_throw (e : Error) : Gives (throw e) P := by
  intro n a n' hrun
  cases hrun

theorem of_except {r : Except Error α} (h : ∀ a, r = .ok a → P a) : Gives (liftM r) P := by
  intro n a n' hrun
  cases r with
  | error e => cases hrun
  | ok b =>
      cases hrun
      exact h a rfl

theorem bind {f : α → StateT Nat (Except Error) β} {R : β → Prop} (hx : Gives x P)
    (hf : ∀ a, P a → Gives (f a) R) : Gives (x >>= f) R := by
  intro n b n' hrun
  rw [StateT.run_bind, Outcome.bind_eq_ok_iff] at hrun
  obtain ⟨⟨a, m⟩, ha, hb⟩ := hrun
  exact hf a (hx n a m ha) m b n' hb

theorem trivial (x : StateT Nat (Except Error) α) : Gives x fun _ => True :=
  fun _ _ _ _ => True.intro

theorem mapM {f : β → StateT Nat (Except Error) α} {items : List β}
    (h : ∀ item ∈ items, Gives (f item) P) :
    Gives (items.mapM f) fun values => ∀ v ∈ values, P v := by
  induction items with
  | nil =>
      rw [List.mapM_nil]
      exact of_pure (by simp)
  | cons item items ih =>
      rw [List.forall_mem_cons] at h
      rw [List.mapM_cons]
      refine h.1.bind fun v hv => (ih h.2).bind fun values hvalues => of_pure ?_
      exact List.forall_mem_cons.2 ⟨hv, hvalues⟩

theorem foldlM {f : α → β → StateT Nat (Except Error) α} (hf : ∀ s item, P s → Gives (f s item) P)
    (items : List β) {s : α} (hs : P s) : Gives (items.foldlM f s) P := by
  induction items generalizing s with
  | nil =>
      rw [List.foldlM_nil]
      exact of_pure hs
  | cons item items ih =>
      rw [List.foldlM_cons]
      exact (hf s item hs).bind fun s' hs' => ih hs'

end Gives

namespace Value

theorem proper_of_intValue? {cs : List Char} {v : Value}
    (h : Scalar.intValue? cs = some (.ok v)) : v.Proper := by
  unfold Scalar.intValue? at h
  split at h
  · cases h
  · rename_i n _
    split at h
    · rename_i hfits
      cases h
      have hfits' : -Int.pow 2 63 ≤ n ∧ n < Int.pow 2 64 := by simpa [Scalar.fitsWord] using hfits
      exact .int hfits'.1 hfits'.2
    · split at h <;> cases h

theorem proper_of_plain {s : String} {v : Value} (h : Scalar.plain s = .ok v) : v.Proper := by
  unfold Scalar.plain at h
  split at h
  · cases h
    exact .null
  · split at h
    · cases h
      exact .bool _
    · split at h
      · rename_i value hvalue
        subst h
        exact proper_of_intValue? hvalue
      · split at h
        · cases h
          exact .str s
        · split at h
          · cases h
            exact .float _
          · cases h
            exact .str s

theorem proper_of_ofStandardTag {tag s : String} {v : Value}
    (h : Scalar.ofStandardTag tag s = .ok v) : v.Proper := by
  unfold Scalar.ofStandardTag at h
  split at h
  · split at h
    · cases h
      exact .bool _
    · cases h
  · split at h
    · cases hvalue : Scalar.intValue? s.toList with
      | none => rw [hvalue] at h; cases h
      | some value =>
          rw [hvalue] at h
          exact proper_of_intValue? (hvalue.trans (congrArg some h))
    · split at h
      · split at h
        · cases h
          exact .float _
        · cases h
      · split at h
        · split at h
          · cases h
            exact .null
          · cases h
        · cases h
          exact .str s

theorem Proper.withTag (tag : Option TagChars) {v : Value} (h : v.Proper) :
    (withTag tag v).Proper := by
  unfold Value.withTag
  split
  · exact .tagged _ h
  · exact h

theorem proper_of_ofScalar {tag : Option TagChars} {isPlain : Bool} {s : String} {v : Value}
    (h : ofScalar tag isPlain s = .ok v) : v.Proper := by
  have huntagged : ∀ {w}, (if isPlain then Scalar.plain s else .ok (.str s)) = .ok w →
      Proper w := by
    intro w hw
    split at hw
    · exact proper_of_plain hw
    · cases hw
      exact .str s
  cases tag with
  | none => exact huntagged h
  | some chars =>
      simp only [ofScalar] at h
      split at h
      · obtain ⟨w, hw, rfl⟩ := Outcome.map_eq_ok_iff.1 h
        exact (huntagged hw).withTag _
      · split at h
        · exact proper_of_ofStandardTag h
        · cases h
          exact .str s

/-- Adding an entry keeps keys apart: its key is compared with all keys before it. -/
theorem proper_of_addEntry {entries entries' : List (Value × Value)} {key value : Value}
    (hentries : (Value.map entries).Proper) (hkey : key.Proper) (hvalue : value.Proper)
    (h : addEntry entries key value = .ok entries') : (Value.map entries').Proper := by
  unfold addEntry at h
  split at h
  · cases h
  · rename_i hnew
    cases h
    cases hentries with
    | map hdistinct hkeys hvalues =>
        refine .map ?_ ?_ ?_
        · rw [List.pairwise_append]
          refine ⟨hdistinct, List.pairwise_singleton _ _, ?_⟩
          intro e he e' he'
          rw [List.mem_singleton.1 he']
          simp only [List.any_eq_true, not_exists, not_and, Bool.not_eq_true] at hnew
          exact hnew e he
        · rw [List.forall_mem_append]
          exact ⟨hkeys, by simpa using hkey⟩
        · rw [List.forall_mem_append]
          exact ⟨hvalues, by simpa using hvalue⟩

theorem gives_ofNode (all : List Node) (depth : Nat) (node : Node) :
    Gives (ofNode all depth node) Proper := by
  induction depth generalizing node with
  | zero =>
      cases node with
      | scalar anchor tag isPlain s => exact .of_except fun v hv => proper_of_ofScalar hv
      | seq anchor tag items => exact .of_throw _
      | map anchor tag entries => exact .of_throw _
      | aliasTo number => exact .of_throw _
  | succ depth ih =>
      cases node with
      | scalar anchor tag isPlain s => exact .of_except fun v hv => proper_of_ofScalar hv
      | seq anchor tag items =>
          have hitem : ∀ item ∈ items, Gives (do ofNode all depth (← target all item)) Proper :=
            fun item _ => (Gives.trivial _).bind fun node _ => ih node
          exact (Gives.mapM hitem).bind fun values hvalues =>
            .of_pure ((Proper.seq hvalues).withTag tag)
      | map anchor tag entries =>
          refine (Gives.foldlM (P := fun values => (Value.map values).Proper) ?_ entries ?_).bind
            fun values hvalues => .of_pure (hvalues.withTag tag)
          · intro values e hvalues
            refine (Gives.trivial _).bind fun node _ => (ih node).bind fun key hkey => ?_
            refine (Gives.trivial _).bind fun node _ => (ih node).bind fun value hvalue => ?_
            exact .of_except fun values' h => proper_of_addEntry hvalues hkey hvalue h
          · exact .map List.Pairwise.nil (by simp) (by simp)
      | aliasTo number => exact .of_throw _

end Value

theorem read_of_scan {text : String} {tokens : List Token} {v : Value}
    (hscan : Token.scan text = .ok tokens) (h : Value.ofTokens tokens = .ok v) :
    Yaml.read text = .ok v := by
  rw [Yaml.read, hscan]
  exact h

/-- A text is read as a proper value. -/
theorem proper_of_read {text : String} {v : Value} (h : Yaml.read text = .ok v) : v.Proper := by
  obtain ⟨tokens, -, h⟩ := Outcome.bind_eq_ok_iff.1 h
  obtain ⟨root, -, h⟩ := Outcome.bind_eq_ok_iff.1 h
  obtain ⟨⟨w, left⟩, hw, h⟩ := Outcome.bind_eq_ok_iff.1 h
  cases h
  have hgives := (Gives.trivial (Value.target root.nodes root)).bind
    fun node _ => Value.gives_ofNode root.nodes depthLimit node
  exact hgives _ _ _ hw

end Scaffold.Yaml
