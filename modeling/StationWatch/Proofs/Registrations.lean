import StationWatch.Measurement

/-!
# Registrations one after another

Kinds are registered, registered again and taken out, under names in any case.  Whatever was done to
a registry, a name in it stands for the kind that was last registered under an equal key and not
taken out since.  So the registry behaves as a map from keys to kinds, and the names it lists are
the keys of that map, in order.

## Main definitions

* `Measurement.Complete` — a kind that has all it must have.
* `Registry.Change`, `Registry.change`, `Registry.after` — what can be done to a registry, and what
  it makes of it.
* `Registry.Stands` — the last registration under a key that still counts.
* `Registry.Refines` — what holds of a registry after changes.

## Main results

* `find?_change_of_enters`, `find?_change_of_removes`, `find?_change_of_spares` — one change.
* `find?_changes_iff` — a list of changes.
* `refines_after` — a registry is the map of its last registrations.

## References

`SPEC_FULL.md`, section 10.4, on the registry.
-/

namespace StationWatch

/-- Every required member is there and holds something, so that a reader finds it. -/
def Measurement.Complete (m : Measurement) : Prop :=
  ∀ name ∈ Measurement.requiredFields,
    Json.lookup name m.members = some (m.field name) ∧ (m.field name).isVacant = false

/-- A kind is complete exactly if nothing is reported as missing. -/
theorem Measurement.missing_eq_nil_iff {m : Measurement} : m.missing = [] ↔ m.Complete := by
  have hfound (name : String) (h : (m.field name).isVacant = false) :
      Json.lookup name m.members = some (m.field name) := by
    unfold field at h ⊢
    cases hlookup : Json.lookup name m.members with
    | none =>
      rw [hlookup] at h
      cases h
    | some value => rfl
  unfold missing
  rw [List.filter_eq_nil_iff]
  constructor
  · intro h name hname
    have hvacant : (m.field name).isVacant = false := Bool.eq_false_iff.2 (h name hname)
    exact ⟨hfound name hvacant, hvacant⟩
  · intro h name hname hvacant
    rw [(h name hname).2] at hvacant
    cases hvacant

namespace Registry

/-! ### Single entries -/

section

variable {r : Registry} {k other : RawText} {m : Measurement}

@[simp] theorem find?_set_self (r : Registry) (k : RawText) (m : Measurement) :
    (r.set k m).find? k = some m := by
  induction r with
  | nil => simp [set, find?]
  | cons entry rest ih =>
    unfold set
    split
    · simp [find?]
    · rename_i hne
      split
      · simp [find?]
      · simp [find?, hne, ih]

theorem find?_set_of_ne (h : other ≠ k) : (r.set k m).find? other = r.find? other := by
  induction r with
  | nil => simp [set, find?, Ne.symm h]
  | cons entry rest ih =>
    unfold set
    split
    · rename_i heq
      simp [find?, heq, Ne.symm h]
    · split
      · simp [find?, Ne.symm h]
      · simp [find?, ih]

theorem find?_remove (r : Registry) (k other : RawText) :
    (r.remove k).find? other = if other = k then none else r.find? other := by
  unfold remove
  induction r with
  | nil => simp [find?]
  | cons entry rest ih =>
    rw [List.filter_cons]
    by_cases hentry : entry.1 = k
    · rw [if_neg (by simp [hentry]), ih]
      by_cases hother : other = k
      · simp [hother]
      · simp [find?, hentry, hother, Ne.symm hother]
    · rw [if_pos (by simp [hentry]), find?, ih]
      by_cases heq : entry.1 = other
      · rw [if_pos heq, if_neg (heq ▸ hentry), find?, if_pos heq]
      · rw [if_neg heq, find?, if_neg heq]

theorem mem_names_iff : k ∈ r.names ↔ ∃ m, r.find? k = some m := by
  unfold names
  induction r with
  | nil => simp [find?]
  | cons entry rest ih =>
    rw [List.map_cons, List.mem_cons, ih, find?]
    by_cases heq : entry.1 = k
    · simp [heq]
    · simp [heq, Ne.symm heq]

theorem mem_set {entry : RawText × Measurement} (h : entry ∈ r.set k m) :
    entry = (k, m) ∨ entry ∈ r := by
  induction r with
  | nil => exact .inl (List.mem_singleton.1 h)
  | cons first rest ih =>
    unfold set at h
    split at h
    · rcases List.mem_cons.1 h with h | h
      · exact .inl h
      · exact .inr (List.mem_cons_of_mem first h)
    · split at h
      · exact List.mem_cons.1 h
      · rcases List.mem_cons.1 h with h | h
        · exact .inr (h ▸ List.mem_cons_self)
        · exact (ih h).imp_right (List.mem_cons_of_mem first)

end

/-! ### The order of the names -/

/-- The names are in strictly ascending order. -/
def Ascending (r : Registry) : Prop := r.names.Pairwise (· < ·)

theorem Ascending.set {r : Registry} (h : r.Ascending) (k : RawText) (m : Measurement) :
    (r.set k m).Ascending := by
  induction r with
  | nil => exact List.pairwise_singleton _ _
  | cons entry rest ih =>
    have hall := List.pairwise_cons.1 h
    unfold Registry.set
    split
    · rename_i heq
      -- The name keeps its place.
      subst heq
      exact h
    · rename_i hne
      split
      · rename_i hlt
        refine List.pairwise_cons.2 ⟨fun name hname => ?_, h⟩
        rcases List.mem_cons.1 hname with rfl | hname
        · exact hlt
        · exact RawText.lt_trans hlt (hall.1 name hname)
      · rename_i hge
        refine List.pairwise_cons.2 ⟨fun name hname => ?_, ih hall.2⟩
        obtain ⟨later, hlater, rfl⟩ := List.mem_map.1 hname
        rcases mem_set hlater with rfl | hold
        · exact RawText.lt_of_not_lt hne hge
        · exact hall.1 _ (List.mem_map_of_mem hold)

theorem Ascending.remove {r : Registry} (h : r.Ascending) (k : RawText) :
    (r.remove k).Ascending :=
  h.sublist (List.filter_sublist.map Prod.fst)

/-! ### One change -/

/-- What can be done to a registry. -/
inductive Change
  | register (name : RawText) (spec : Json)
  | unregister (name : RawText)
  /-- All kinds are taken out. -/
  | clear

namespace Change

/-- The change registers a complete kind under a key. -/
def Enters (k : RawText) (m : Measurement) (c : Change) : Prop :=
  ∃ name, c = .register name (.obj m.members) ∧ key name = k ∧ m.Complete

/-- The change takes a key out. -/
def Removes (k : RawText) (c : Change) : Prop :=
  c = .clear ∨ ∃ name, c = .unregister name ∧ key name = k

/-- The change neither registers a kind under a key nor takes the key out. -/
def Spares (k : RawText) (c : Change) : Prop := (∀ m, ¬ c.Enters k m) ∧ ¬ c.Removes k

end Change

/-- A registry after a change; a refused registration changes nothing. -/
def change (r : Registry) : Change → Registry
  | .register name spec => r.registered name spec
  | .unregister name => (r.unregister name).1
  | .clear => []

/-- A registry after changes, the first one first. -/
def changes (r : Registry) (list : List Change) : Registry := list.foldl change r

/-- What changes make of a registry without kinds. -/
def after (list : List Change) : Registry := changes [] list

section

variable {r : Registry} {k name : RawText} {m : Measurement} {c : Change}

/-- A complete kind is registered; the key that was there is told. -/
theorem register_of_complete (h : m.Complete) (r : Registry) (name : RawText) :
    r.register name (.obj m.members) =
      .ok ⟨r.set (key name) m, (r.find? (key name)).map fun _ => key name⟩ := by
  have hmissing : (⟨m.members⟩ : Measurement).missing = [] := Measurement.missing_eq_nil_iff.2 h
  simp only [register, hmissing, List.isEmpty_nil, if_true]

/-- Nothing but a complete kind is registered. -/
theorem exists_complete_of_register {spec : Json} {done : Registered}
    (h : r.register name spec = .ok done) :
    ∃ m : Measurement, spec = .obj m.members ∧ m.Complete ∧
      done = ⟨r.set (key name) m, (r.find? (key name)).map fun _ => key name⟩ := by
  cases spec with
  | obj members =>
    simp only [register] at h
    split at h
    · rename_i hmissing
      cases h
      have hcomplete := Measurement.missing_eq_nil_iff.1 (List.isEmpty_iff.1 hmissing)
      exact ⟨⟨members⟩, rfl, hcomplete, rfl⟩
    · cases h
  | _ => cases h

theorem change_register_of_complete (h : m.Complete) (r : Registry) (name : RawText) :
    r.change (.register name (.obj m.members)) = r.set (key name) m := by
  simp only [change, registered, register_of_complete h]

theorem change_register_of_error {spec : Json} {fault : RegistryFault}
    (h : r.register name spec = .error fault) : r.change (.register name spec) = r := by
  simp only [change, registered, h]

/-- A registration is accepted and enters a kind, or it is refused and changes nothing. -/
theorem change_register_cases (r : Registry) (name : RawText) (spec : Json) :
    (∃ m, (Change.register name spec).Enters (key name) m ∧
        r.change (.register name spec) = r.set (key name) m) ∨
      (∀ k m, ¬ (Change.register name spec).Enters k m) ∧ r.change (.register name spec) = r := by
  cases hregister : r.register name spec with
  | ok done =>
    obtain ⟨m, rfl, hcomplete, -⟩ := exists_complete_of_register hregister
    exact .inl ⟨m, ⟨name, rfl, rfl, hcomplete⟩, change_register_of_complete hcomplete r name⟩
  | error fault =>
    refine .inr ⟨?_, change_register_of_error hregister⟩
    rintro k m ⟨_, ⟨⟩, -, hcomplete⟩
    rw [register_of_complete hcomplete] at hregister
    cases hregister

theorem find?_change_of_enters (r : Registry) (h : c.Enters k m) :
    (r.change c).find? k = some m := by
  obtain ⟨name, rfl, rfl, hcomplete⟩ := h
  rw [change_register_of_complete hcomplete, find?_set_self]

theorem find?_change_of_removes (r : Registry) (h : c.Removes k) : (r.change c).find? k = none := by
  rcases h with rfl | ⟨name, rfl, rfl⟩
  · rfl
  · exact (find?_remove r (key name) (key name)).trans (if_pos rfl)

theorem find?_change_of_spares (r : Registry) (h : c.Spares k) :
    (r.change c).find? k = r.find? k := by
  cases c with
  | register name spec =>
    rcases change_register_cases r name spec with ⟨m, henters, heq⟩ | ⟨-, heq⟩
    · have hne : k ≠ key name := by
        rintro rfl
        exact h.1 m henters
      rw [heq, find?_set_of_ne hne]
    · rw [heq]
  | unregister name =>
    have hne : k ≠ key name := fun heq => h.2 (.inr ⟨name, rfl, heq.symm⟩)
    exact (find?_remove r (key name) k).trans (if_neg hne)
  | clear => exact absurd (.inl rfl) h.2

theorem Ascending.change (h : r.Ascending) (c : Change) : (r.change c).Ascending := by
  cases c with
  | register name spec =>
    rcases change_register_cases r name spec with ⟨m, -, heq⟩ | ⟨-, heq⟩
    · rw [heq]
      exact h.set (key name) m
    · rw [heq]
      exact h
  | unregister name => exact h.remove (key name)
  | clear => exact List.Pairwise.nil

/-- Only complete kinds come in. -/
theorem complete_change (h : ∀ entry ∈ r, entry.2.Complete) (c : Change) :
    ∀ entry ∈ r.change c, entry.2.Complete := by
  intro entry hentry
  cases c with
  | register name spec =>
    rcases change_register_cases r name spec with ⟨m, ⟨_, -, -, hcomplete⟩, heq⟩ | ⟨-, heq⟩
    · rw [heq] at hentry
      rcases mem_set hentry with rfl | hold
      · exact hcomplete
      · exact h entry hold
    · rw [heq] at hentry
      exact h entry hentry
  | unregister name => exact h entry (List.mem_filter.1 hentry).1
  | clear => cases hentry

end

/-! ### Changes in a row -/

/-- A kind was registered under a key, and since then no other one, nor was the key taken out. -/
def Stands (list : List Change) (k : RawText) (m : Measurement) : Prop :=
  ∃ before c later, list = before ++ c :: later ∧ c.Enters k m ∧ ∀ d ∈ later, d.Spares k

variable {k : RawText} {m : Measurement}

theorem stands_cons_iff {c : Change} {rest : List Change} :
    Stands (c :: rest) k m ↔ Stands rest k m ∨ (c.Enters k m ∧ ∀ d ∈ rest, d.Spares k) := by
  constructor
  · rintro ⟨before, entering, later, hlist, henters, hspares⟩
    rw [List.cons_eq_append_iff] at hlist
    rcases hlist with ⟨rfl, hlist⟩ | ⟨more, rfl, hrest⟩
    · cases hlist
      exact .inr ⟨henters, hspares⟩
    · exact .inl ⟨more, entering, later, hrest, henters, hspares⟩
  · rintro (⟨before, entering, later, rfl, henters, hspares⟩ | ⟨henters, hspares⟩)
    · exact ⟨c :: before, entering, later, rfl, henters, hspares⟩
    · exact ⟨[], c, rest, rfl, henters, hspares⟩

/-- After changes a key stands for the kind that stands, or for the one that was there before if all
changes spare the key. -/
theorem find?_changes_iff (list : List Change) (r : Registry) :
    (r.changes list).find? k = some m ↔
      Stands list k m ∨ ((∀ d ∈ list, d.Spares k) ∧ r.find? k = some m) := by
  induction list generalizing r with
  | nil => simp [changes, Stands]
  | cons c rest ih =>
    have hnext : (r.changes (c :: rest)).find? k = some m ↔
        Stands rest k m ∨ ((∀ d ∈ rest, d.Spares k) ∧ (r.change c).find? k = some m) :=
      ih (r.change c)
    rw [hnext, stands_cons_iff, List.forall_mem_cons, or_assoc]
    refine or_congr_right ?_
    by_cases henters : ∃ n, c.Enters k n
    · obtain ⟨n, hn⟩ := henters
      rw [find?_change_of_enters r hn]
      have hsame : n = m ↔ c.Enters k m := by
        constructor
        · rintro rfl
          exact hn
        · intro hm
          have hboth := (find?_change_of_enters r hn).symm.trans (find?_change_of_enters r hm)
          exact Option.some.inj hboth
      have hnot : ¬ c.Spares k := fun hspares => hspares.1 n hn
      simp [hsame, hnot, and_comm]
    · have hnone : ¬ c.Enters k m := fun hm => henters ⟨m, hm⟩
      by_cases hremoves : c.Removes k
      · rw [find?_change_of_removes r hremoves]
        have hnot : ¬ c.Spares k := fun hspares => hspares.2 hremoves
        simp [hnone, hnot]
      · have hspares : c.Spares k := ⟨not_exists.1 henters, hremoves⟩
        rw [find?_change_of_spares r hspares]
        simp [hnone, hspares]

/-- What every change keeps, a list of changes keeps. -/
theorem changes_induction {P : Registry → Prop} (hchange : ∀ r c, P r → P (r.change c))
    (list : List Change) {r : Registry} (h : P r) : P (r.changes list) := by
  induction list generalizing r with
  | nil => exact h
  | cons c rest ih => exact ih (hchange r c h)

/-- What holds of a registry after changes. -/
structure Refines (list : List Change) (r : Registry) : Prop where
  /-- A name stands for the kind that was last registered under its key. -/
  found : ∀ name m, r.get? name = some m ↔ Stands list (key name) m
  /-- Exactly the kinds that are not complete are refused. -/
  refused : ∀ name spec, (∃ fault, r.register name spec = .error fault) ↔
    ∀ m, ¬ (Change.register name spec).Enters (key name) m
  /-- A refused registration leaves the registry as it is. -/
  unchanged : ∀ name spec fault, r.register name spec = .error fault →
    r.change (.register name spec) = r
  /-- An accepted one warns exactly if the key is there. -/
  warned : ∀ name spec done, r.register name spec = .ok done →
    done.registry = r.change (.register name spec) ∧
      done.replaced = if key name ∈ r.names then some (key name) else none
  /-- Taking out tells whether the name would have been found. -/
  removed : ∀ name, (r.unregister name).2 = true ↔ ∃ m, r.get? name = some m
  ascending : r.names.Pairwise (· < ·)
  /-- The names are the keys that stand for a kind. -/
  listed : ∀ k, k ∈ r.names ↔ ∃ m, Stands list k m
  /-- Every kind has all that a cycle looks up. -/
  complete : ∀ entry ∈ r, entry.2.Complete

theorem find?_after_iff (list : List Change) :
    (after list).find? k = some m ↔ Stands list k m := by
  unfold after
  rw [find?_changes_iff]
  simp [find?]

/-- The two kinds that are always known are the first registrations. -/
def builtInChanges : List Change :=
  [.register "TEMPERATURE" temperature, .register "HUMIDITY" humidity]

/-- **A registry is the map of its last registrations.**  After any changes a name stands for the
kind that was last registered under an equal key, unless the key was taken out since, and for none
otherwise.  A registration is refused exactly if the kind is not complete, and then changes nothing;
an accepted one warns exactly if the key is there.  Taking out a name tells whether it would have
been found.  The names are listed in strictly ascending order, each with a kind that is complete. -/
theorem refines_after :
    builtIn = after builtInChanges ∧ ∀ list, Refines list (after list) := by
  refine ⟨rfl, fun list => ?_⟩
  constructor
  · intro name m
    exact find?_after_iff list
  · intro name spec
    constructor
    · rintro ⟨fault, hfault⟩ m ⟨_, ⟨⟩, -, hcomplete⟩
      rw [register_of_complete hcomplete] at hfault
      cases hfault
    · intro hnone
      cases hregister : (after list).register name spec with
      | error fault => exact ⟨fault, rfl⟩
      | ok done =>
        obtain ⟨m, rfl, hcomplete, -⟩ := exists_complete_of_register hregister
        exact absurd ⟨name, rfl, rfl, hcomplete⟩ (hnone m)
  · intro name spec fault hfault
    exact change_register_of_error hfault
  · intro name spec done hdone
    obtain ⟨m, rfl, hcomplete, rfl⟩ := exists_complete_of_register hdone
    refine ⟨(change_register_of_complete hcomplete _ name).symm, ?_⟩
    cases hfind : (after list).find? (key name) with
    | none =>
      have hnot : key name ∉ (after list).names := by
        rw [mem_names_iff, hfind]
        rintro ⟨n, ⟨⟩⟩
      exact (if_neg hnot).symm
    | some n => exact (if_pos (mem_names_iff.2 ⟨n, hfind⟩)).symm
  · intro name
    exact Option.isSome_iff_exists
  · exact changes_induction (P := Ascending) (fun r c h => h.change c) list List.Pairwise.nil
  · intro k
    rw [mem_names_iff]
    exact exists_congr fun m => find?_after_iff list
  · exact changes_induction (P := fun r => ∀ entry ∈ r, entry.2.Complete)
      (fun r c h => complete_change h c) list (fun entry hentry => by cases hentry)

/-- A sharp s is two letters in capitals, so the two names have one key. -/
example : (after [.register "Straße" temperature, .register "HUMIDITY" humidity,
    .unregister "strasse"]).names = (["HUMIDITY"] : List RawText) := by decide +kernel

end Registry

end StationWatch
