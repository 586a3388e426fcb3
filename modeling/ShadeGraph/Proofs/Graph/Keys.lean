import ShadeGraph.Proofs.Lowering.Step

/-!
# Keys that tell sockets apart

Keys join ids with a slash. Where no id of a graph or of a node holds a slash
and no two graphs of a family share an id, the key of an output socket gives the
socket back: its place, its node and its name, which may hold slashes.
-/

namespace ShadeGraph

variable {α : Type} {n : Nat}

/-- Free of the character that keys are joined by. -/
def Unslashed (s : String) : Prop := '/' ∉ s.toList

theorem not_unslashed_joined (a b : String) : ¬ Unslashed (a ++ "/" ++ b) := by
  simp [Unslashed]

/-- Two texts that are equal, each cut at the same character, are cut at one
place, or the first part of one goes on where that of the other ends. -/
theorem cut_cases {c : Char} {a b a' b' : List Char} (h : a ++ c :: b = a' ++ c :: b') :
    (a = a' ∧ b = b') ∨ (∃ rest, a' = a ++ c :: rest ∧ b = rest ++ c :: b') ∨
      ∃ rest, a = a' ++ c :: rest ∧ b' = rest ++ c :: b := by
  rcases List.append_eq_append_iff.1 h with
    ⟨_ | ⟨d, rest⟩, first, second⟩ | ⟨_ | ⟨d, rest⟩, first, second⟩
  · refine Or.inl ⟨by simpa using first.symm, ?_⟩
    exact (List.cons.inj second).2
  · obtain ⟨rfl, tail⟩ := List.cons.inj second
    exact Or.inr (Or.inl ⟨rest, first, tail⟩)
  · refine Or.inl ⟨by simpa using first, ?_⟩
    exact (List.cons.inj second).2.symm
  · obtain ⟨rfl, tail⟩ := List.cons.inj second
    exact Or.inr (Or.inr ⟨rest, first, tail⟩)

/-- Equal keys have equal parts, or the first part of one goes on where that of
the other ends at a slash. -/
theorem joined_cases {a b a' b' : String} (h : a ++ "/" ++ b = a' ++ "/" ++ b') :
    (a = a' ∧ b = b') ∨ (∃ rest, a' = a ++ "/" ++ rest ∧ b = rest ++ "/" ++ b') ∨
      ∃ rest, a = a' ++ "/" ++ rest ∧ b' = rest ++ "/" ++ b := by
  have chars : a.toList ++ '/' :: b.toList = a'.toList ++ '/' :: b'.toList := by
    simpa using congrArg String.toList h
  have text {s t : String} {rest : List Char} (cut : s.toList = rest ++ '/' :: t.toList) :
      s = String.ofList rest ++ "/" ++ t := String.toList_inj.1 (by simpa using cut)
  have first {s t : String} {rest : List Char} (cut : s.toList = t.toList ++ '/' :: rest) :
      s = t ++ "/" ++ String.ofList rest := String.toList_inj.1 (by simpa using cut)
  rcases cut_cases chars with ⟨heads, tails⟩ | ⟨rest, longer, tail⟩ | ⟨rest, longer, tail⟩
  · exact Or.inl ⟨String.toList_inj.1 heads, String.toList_inj.1 tails⟩
  · exact Or.inr (Or.inl ⟨String.ofList rest, first longer, text tail⟩)
  · exact Or.inr (Or.inr ⟨String.ofList rest, first longer, text tail⟩)

theorem joined_unique {a b a' b' : String} (ha : Unslashed a) (ha' : Unslashed a')
    (h : a ++ "/" ++ b = a' ++ "/" ++ b') : a = a' ∧ b = b' := by
  obtain same | ⟨rest, rfl, _⟩ | ⟨rest, rfl, _⟩ := joined_cases h
  · exact same
  · exact absurd ha' (not_unslashed_joined a rest)
  · exact absurd ha (not_unslashed_joined a' rest)

/-- The ids of a graph hold no slash. -/
def Graph.Unslashed {ρ : Type} (graph : Graph α ρ) : Prop :=
  ShadeGraph.Unslashed graph.id ∧ ∀ node ∈ graph.nodes, ShadeGraph.Unslashed node.id

/-- A family whose keys are unambiguous. -/
structure Family.Keyed (family : Family α n) : Prop where
  unslashed : ∀ site, (family.graph site).Unslashed
  distinct : ∀ site place, (family.graph site).id = (family.graph place).id → site = place

theorem Lowering.cacheKey_eq (graph : Graph α (Fin n)) (ref : Endpoint) :
    cacheKey graph ref = graph.id ++ "/" ++ ref.node ++ "/" ++ ref.socket := rfl

theorem Family.Keyed.cacheKey_unique {family : Family α n} (keyed : family.Keyed)
    {site place : Site n} {ref ref' : Endpoint} {node node' : Node α (Fin n)}
    (found : (family.graph site).findNode? ref.node = some node)
    (found' : (family.graph place).findNode? ref'.node = some node')
    (h : Lowering.cacheKey (family.graph site) ref = Lowering.cacheKey (family.graph place) ref') :
    site = place ∧ ref = ref' := by
  have unslashed (place : Site n) {ref : Endpoint} {node : Node α (Fin n)}
      (found : (family.graph place).findNode? ref.node = some node) : Unslashed ref.node := by
    rw [← Graph.id_of_findNode? found]
    exact (keyed.unslashed place).2 node (Graph.mem_of_findNode? found)
  have parts : (family.graph site).id ++ "/" ++ (ref.node ++ "/" ++ ref.socket) =
      (family.graph place).id ++ "/" ++ (ref'.node ++ "/" ++ ref'.socket) := by
    simpa only [Lowering.cacheKey_eq, String.append_assoc] using h
  obtain ⟨graphs, rest⟩ :=
    joined_unique (keyed.unslashed site).1 (keyed.unslashed place).1 parts
  obtain ⟨nodes, sockets⟩ := joined_unique (unslashed site found) (unslashed place found') rest
  cases ref
  cases ref'
  cases nodes
  cases sockets
  exact ⟨keyed.distinct _ _ graphs, rfl⟩

end ShadeGraph
