import SchemaTypings.Descriptor.Depth
import SchemaTypings.Proofs.Descriptor.Override

/-!
# The nodes of a descriptor

A descriptor is a tree: its children are the choices, items, properties, patterns, additional properties,
methods, parameters, extra parameters and the return type.

* `Descriptor.nodes`: the descriptor and all descriptors below it, at any depth.
* `Descriptor.nodes_eq`: they are the descriptor and the nodes of its children.
* `Descriptor.depth_eq`: the depth is one more than that of the children.
-/

namespace SchemaTypings.Descriptor

/-! ## Nodes -/

mutual

/-- All descriptors below a descriptor. -/
def descendants : Descriptor → List Descriptor
  | ⟨_, _, _, _, _, _, _, _, choices, _, _, items, properties, patternProperties,
      additionalProperties, functions, _, parameters, extraParameters, returns, _, _⟩ =>
    listNodes? choices ++ (nodes? items ++ (mapNodes? properties ++
      (mapNodes? patternProperties ++ (additionalNodes? additionalProperties ++
        (listNodes? functions ++ (listNodes? parameters ++ (listNodes? extraParameters ++
          nodes? returns)))))))

/-- The nodes of a present descriptor. -/
def nodes? : Option Descriptor → List Descriptor
  | none => []
  | some d => d :: descendants d

/-- The nodes of a present list. -/
def listNodes? : Option (List Descriptor) → List Descriptor
  | none => []
  | some ds => listNodes ds

/-- The nodes of a list. -/
def listNodes : List Descriptor → List Descriptor
  | [] => []
  | d :: ds => d :: descendants d ++ listNodes ds

/-- The nodes of a present map. -/
def mapNodes? : Option (List (String × Descriptor)) → List Descriptor
  | none => []
  | some entries => mapNodes entries

/-- The nodes of a map. -/
def mapNodes : List (String × Descriptor) → List Descriptor
  | [] => []
  | entry :: rest => entryNodes entry ++ mapNodes rest

/-- The nodes of an entry. -/
def entryNodes : String × Descriptor → List Descriptor
  | (_, d) => d :: descendants d

/-- The nodes of what is allowed under other keys. -/
def additionalNodes? : Option (Additional Descriptor) → List Descriptor
  | none => []
  | some additional => additionalNodes additional

/-- The nodes of a flag or a descriptor. -/
def additionalNodes : Additional Descriptor → List Descriptor
  | .allowed _ => []
  | .schema d => d :: descendants d

end

/-- The descriptor and all descriptors below it. -/
def nodes (d : Descriptor) : List Descriptor := d :: descendants d

/-! ## Children -/

/-- The descriptor for additional properties, if there is one. -/
def additional? (d : Descriptor) : Option Descriptor :=
  match d.additionalProperties with
  | some (.schema e) => some e
  | _ => none

/-- The descriptors directly below a descriptor. -/
def children (d : Descriptor) : List Descriptor :=
  d.choices.getD [] ++ (d.items.toList ++ ((d.properties.getD []).map (·.2) ++
    ((d.patternProperties.getD []).map (·.2) ++ (d.additional?.toList ++
      (d.functions.getD [] ++ (d.params ++ (d.extraParams ++ d.returns.toList)))))))

theorem listNodes_eq (ds : List Descriptor) : listNodes ds = ds.flatMap nodes := by
  induction ds with
  | nil => rfl
  | cons d ds ih =>
    rw [listNodes, ih, List.flatMap_cons]
    rfl

theorem mapNodes_eq (entries : List (String × Descriptor)) :
    mapNodes entries = (entries.map (·.2)).flatMap nodes := by
  induction entries with
  | nil => rfl
  | cons entry rest ih =>
    obtain ⟨key, d⟩ := entry
    rw [mapNodes, ih, List.map_cons, List.flatMap_cons]
    rfl

/-- **The nodes of a descriptor are itself and the nodes of its children.** -/
theorem nodes_eq (d : Descriptor) : d.nodes = d :: d.children.flatMap nodes := by
  have hlist : ∀ ds : Option (List Descriptor), listNodes? ds = (ds.getD []).flatMap nodes := by
    rintro (_ | ds)
    · rfl
    · exact listNodes_eq ds
  have hmap : ∀ entries : Option (List (String × Descriptor)),
      mapNodes? entries = ((entries.getD []).map (·.2)).flatMap nodes := by
    rintro (_ | entries)
    · rfl
    · exact mapNodes_eq entries
  have hone : ∀ e : Option Descriptor, nodes? e = e.toList.flatMap nodes := by
    rintro (_ | e)
    · rfl
    · simp [nodes?, nodes]
  have hadditional : additionalNodes? d.additionalProperties = d.additional?.toList.flatMap nodes := by
    unfold additional?
    rcases d.additionalProperties with _ | _ | e
    · rfl
    · rfl
    · simp [additionalNodes?, additionalNodes, nodes]
  rw [nodes, children]
  cases d
  simp only [descendants, List.flatMap_append, hlist, hmap, hone, params, extraParams]
  simp only at hadditional
  rw [hadditional]

/-! ## Depth -/

theorem depth_le_listDepth {d : Descriptor} {ds : List Descriptor} (h : d ∈ ds) :
    d.depth ≤ listDepth ds := by
  induction ds with
  | nil => cases h
  | cons e es ih =>
    rw [listDepth]
    rcases List.mem_cons.mp h with rfl | h
    · exact Nat.le_max_left _ _
    · exact Nat.le_trans (ih h) (Nat.le_max_right _ _)

theorem listDepth_append (first second : List Descriptor) :
    listDepth (first ++ second) = max (listDepth first) (listDepth second) := by
  induction first with
  | nil => exact (Nat.zero_max _).symm
  | cons d ds ih => rw [List.cons_append, listDepth, listDepth, ih, Nat.max_assoc]

theorem mapDepth_eq (entries : List (String × Descriptor)) :
    mapDepth entries = listDepth (entries.map (·.2)) := by
  induction entries with
  | nil => rfl
  | cons entry rest ih =>
    obtain ⟨key, d⟩ := entry
    rw [mapDepth, ih, entryDepth, List.map_cons, listDepth]

/-- The depth of a descriptor is one more than that of its children. -/
theorem depth_eq (d : Descriptor) : d.depth = 1 + listDepth d.children := by
  have hlist : ∀ ds : Option (List Descriptor), listDepth? ds = listDepth (ds.getD []) := by
    rintro (_ | ds) <;> rfl
  have hmap : ∀ entries : Option (List (String × Descriptor)),
      mapDepth? entries = listDepth ((entries.getD []).map (·.2)) := by
    rintro (_ | entries)
    · rfl
    · exact mapDepth_eq entries
  have hone : ∀ e : Option Descriptor, depth? e = listDepth e.toList := by
    rintro (_ | e)
    · rfl
    · exact (Nat.max_zero _).symm
  have hadditional : additionalDepth? d.additionalProperties = listDepth d.additional?.toList := by
    unfold additional?
    rcases d.additionalProperties with _ | _ | e
    · rfl
    · rfl
    · exact (Nat.max_zero _).symm
  rw [children]
  cases d
  simp only [depth, listDepth_append, hlist, hmap, hone, params, extraParams]
  simp only at hadditional
  rw [hadditional]

/-- **A child is nested less deeply.** -/
theorem depth_lt_of_mem_children {d e : Descriptor} (h : e ∈ d.children) : e.depth < d.depth := by
  have hle := depth_le_listDepth h
  rw [depth_eq d]
  omega

end SchemaTypings.Descriptor
