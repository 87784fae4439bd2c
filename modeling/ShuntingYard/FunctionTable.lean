/-! The table of recognised functions: lower-case name to arity. Entries are kept in the order of
    their names, each name once, so that a table has one form and lists itself in order. -/

namespace ShuntingYard

/-- Recognised function names with their arities. -/
structure FunctionTable where
  /-- The entries, listed by name. -/
  entries : List (String × Int)
  /-- Names ascend by code point, so no name occurs twice. -/
  ascending : entries.Pairwise (fun a b => a.1 < b.1)
  deriving DecidableEq

namespace FunctionTable

/-- Puts an entry at its place among ascending entries, over an entry of the same name. -/
def place (name : String) (arity : Int) : List (String × Int) → List (String × Int)
  | [] => [(name, arity)]
  | (k, a) :: rest =>
    if k = name then (name, arity) :: rest
    else if name < k then (name, arity) :: (k, a) :: rest
    else (k, a) :: place name arity rest

theorem mem_place {name : String} {arity : Int} {e : String × Int} :
    ∀ {l : List (String × Int)}, e ∈ place name arity l → e = (name, arity) ∨ e ∈ l
  | [], h => by simpa [place] using h
  | (k, a) :: rest, h => by
    unfold place at h
    split at h
    · rcases List.mem_cons.mp h with h | h
      · exact .inl h
      · exact .inr (List.mem_cons_of_mem _ h)
    · split at h
      · exact List.mem_cons.mp h
      · rcases List.mem_cons.mp h with h | h
        · exact .inr (h ▸ List.mem_cons_self)
        · exact (mem_place h).imp id (List.mem_cons_of_mem _)

theorem place_ascending (name : String) (arity : Int) : ∀ {l : List (String × Int)},
    l.Pairwise (fun a b => a.1 < b.1) → (place name arity l).Pairwise (fun a b => a.1 < b.1)
  | [], _ => by simp [place]
  | (k, a) :: rest, h => by
    obtain ⟨hk, hrest⟩ := List.pairwise_cons.mp h
    unfold place
    split
    · next hkn => exact List.pairwise_cons.mpr ⟨fun e he => hkn ▸ hk e he, hrest⟩
    · next hkn =>
      split
      · next hlt =>
        refine List.pairwise_cons.mpr ⟨fun e he => ?_, h⟩
        rcases List.mem_cons.mp he with rfl | he
        · exact hlt
        · exact String.lt_trans hlt (hk e he)
      · next hlt =>
        refine List.pairwise_cons.mpr ⟨fun e he => ?_, place_ascending name arity hrest⟩
        rcases mem_place he with rfl | he
        · exact Std.lt_of_le_of_ne (String.not_lt.mp hlt) hkn
        · exact hk e he

/-- The table without entries. -/
def empty : FunctionTable := ⟨[], .nil⟩

/-- Sine, cosine and tangent, of one operand each. -/
def trigonometric : FunctionTable := ⟨[("cos", 1), ("sin", 1), ("tan", 1)], by decide⟩

/-- Adds an entry; an entry of the same name is replaced. -/
def insert (t : FunctionTable) (name : String) (arity : Int) : FunctionTable :=
  ⟨place name arity t.entries, place_ascending name arity t.ascending⟩

/-- Removes the entry of a name, if there is one. -/
def erase (t : FunctionTable) (name : String) : FunctionTable :=
  ⟨t.entries.filter (fun e => e.1 != name), t.ascending.filter _⟩

/-- The table of a list of entries; of two entries with one name the later counts. -/
def ofList (l : List (String × Int)) : FunctionTable := l.foldl (fun t e => t.insert e.1 e.2) empty

/-- The arity of a function, if the name is in the table. -/
def arity? (t : FunctionTable) (name : String) : Option Int := t.entries.lookup name

/-- Whether a name is in the table. -/
def contains (t : FunctionTable) (name : String) : Bool := (t.arity? name).isSome

theorem lookup_cons_eq (name other : String) (arity : Int) (l : List (String × Int)) :
    ((name, arity) :: l).lookup other = if other = name then some arity else l.lookup other := by
  by_cases h : other = name
  · simp [h]
  · have hb : (other == name) = false := by simpa using h
    simp [List.lookup_cons, hb, h]

theorem lookup_place (name : String) (arity : Int) (other : String) : ∀ l : List (String × Int),
    (place name arity l).lookup other = if other = name then some arity else l.lookup other
  | [] => lookup_cons_eq name other arity []
  | (k, a) :: rest => by
    unfold place
    split
    · next hk => subst hk; simp only [lookup_cons_eq]; split <;> rfl
    · next hk =>
      split
      · exact lookup_cons_eq name other arity _
      · simp only [lookup_cons_eq, lookup_place name arity other rest]
        by_cases h : other = k
        · subst h; simp [hk]
        · simp [h]

/-- Leaving out the entries of some names forgets these names and no others. -/
theorem lookup_filter (p : String → Bool) (name : String) : ∀ l : List (String × Int),
    (l.filter fun e => p e.1).lookup name = if p name then l.lookup name else none
  | [] => by simp
  | (k, a) :: rest => by
    have ih := lookup_filter p name rest
    by_cases hk : p k = true
    · rw [List.filter_cons_of_pos (by simpa using hk), lookup_cons_eq, lookup_cons_eq, ih]
      by_cases h : name = k
      · simp [h, hk]
      · simp [h]
    · rw [List.filter_cons_of_neg (by simpa using hk), ih, lookup_cons_eq]
      by_cases h : name = k
      · simp [h, hk]
      · simp [h]

/-- Inserting sets the arity of its own name and leaves all others. -/
@[simp] theorem arity?_insert (t : FunctionTable) (name : String) (arity : Int) (other : String) :
    (t.insert name arity).arity? other = if other = name then some arity else t.arity? other :=
  lookup_place name arity other t.entries

/-- Erasing forgets its own name and leaves all others. -/
@[simp] theorem arity?_erase (t : FunctionTable) (name other : String) :
    (t.erase name).arity? other = if other = name then none else t.arity? other := by
  refine (lookup_filter (fun k => k != name) other t.entries).trans ?_
  by_cases h : other = name
  · simp [h]
  · simp [h, arity?]

@[simp] theorem arity?_empty (name : String) : empty.arity? name = none := rfl

end FunctionTable

end ShuntingYard
