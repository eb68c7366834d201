import RelationalSearch.Proofs.Leaves
import RelationalSearch.Proofs.Searches

/-!
# Which columns a search compares

Whatever way a search comes to an entity, and in a broad search too, it compares
only searchable columns of that entity: columns of its table that are not excluded
and do not have the name that the provider of the tables keeps from searches. The
entity that a comparison is about is the target of the innermost semi-join around it
(`RelationalSearch.Registry.filtered?`). An entity compares only the columns it is
given (`RelationalSearch.of_mem_located_buildPredicate`), and a semi-join compares
what its target does (`RelationalSearch.Registry.ComparesAs.joined`).

The name that is kept from searches is that of the provider's own configuration. A
compiler can be given a configuration of its own, with another name for the
broad-search parameter, and this name is then no obstacle: a column that has it is
compared.
-/

namespace RelationalSearch

/-! ### The columns that a search compares -/

/-- **The entity that a comparison is about**, given the relations of the semi-joins
around it: the target of the last of them, or the entity that is searched. -/
def Registry.filtered? (r : Registry) (root : Entity) (path : List Relation) : Option Entity :=
  match path.getLast? with
  | some relation => r.find? relation.target
  | none => some root

/-- **Whether all comparisons of a predicate are such** as they should be of the entity
that they are about. -/
def Registry.ComparesAs (r : Registry) (Q : Entity → Condition → Prop) (root : Entity)
    (g : Group) : Prop :=
  ∀ l ∈ g.located, ∃ e, r.filtered? root l.1 = some e ∧ Q e l.2

section

variable {r : Registry} {root target : Entity} {relation : Relation}

/-- Inside a semi-join a comparison is about the entity that it is about in the
predicate of the target. -/
theorem Registry.filtered?_cons {path : List Relation}
    (h : r.find? relation.target = some target) :
    r.filtered? root (relation :: path) = r.filtered? target path := by
  cases path with
  | nil => exact h
  | cons next path =>
    rw [Registry.filtered?, Registry.filtered?, List.getLast?_cons_cons]
    cases hlast : (next :: path).getLast? with
    | none => exact absurd (List.getLast?_eq_none_iff.mp hlast) (List.cons_ne_nil _ _)
    | some last => rfl

/-- Where a semi-join is joined, the comparisons are those found before and those of its
target. -/
theorem Registry.ComparesAs.joined {Q : Entity → Condition → Prop} {connective : Connective}
    {found below : Group} (hrelation : r.find? relation.target = some target)
    (hfound : r.ComparesAs Q root found) (hbelow : r.ComparesAs Q target below) :
    r.ComparesAs Q root
      (Group.of connective [found.toPredicate, Group.related relation target.table below]) := by
  intro l hl
  rw [Group.located_of, Predicate.mem_locatedIn] at hl
  obtain ⟨p, hp, hl⟩ := hl
  rcases List.mem_cons.mp hp with rfl | hp
  · exact hfound l hl
  · rw [List.mem_singleton.mp hp, Group.located_related] at hl
    obtain ⟨l', hl', rfl⟩ := List.mem_map.mp hl
    rw [Registry.filtered?_cons hrelation]
    exact hbelow l' hl'

/-- Nothing that is asked for is compared. -/
theorem Registry.ComparesAs.empty (r : Registry) (Q : Entity → Condition → Prop) (root : Entity) :
    r.ComparesAs Q root Group.empty :=
  fun _ hl => absurd hl List.not_mem_nil

/-- The comparisons of an entity's own columns are about the entity. -/
theorem Registry.ComparesAs.own {Q : Entity → Condition → Prop} {table : Table}
    {columns likeKeys : List String} {params : Bag} {mode : BuildMode}
    (h : ∀ l ∈ (buildPredicate table columns likeKeys params mode).located, Q root l.2) :
    r.ComparesAs Q root (buildPredicate table columns likeKeys params mode) := by
  intro l hl
  refine ⟨root, ?_, h l hl⟩
  rw [(of_mem_located_buildPredicate hl).1]
  rfl

end

namespace Compiler

/-- Whether a column may be compared in a search of an entity: its table has it, and
it is neither excluded nor kept from searches. -/
def Exposes (c : Compiler) (catalog : Catalog) (e : Entity) (column : String) : Prop :=
  ∃ table, catalog.table e.table = .ok table ∧ column ∈ table.columnNames ∧
    column ∉ e.spec.excludedKeys ∧ column ≠ c.columnAlias

/-- Whether all comparisons of a predicate are of columns that may be compared. -/
def Compares (c : Compiler) (catalog : Catalog) (root : Entity) (g : Group) : Prop :=
  ∀ l ∈ g.located, ∃ e, c.registry.filtered? root l.1 = some e ∧
    c.Exposes catalog e l.2.column

variable {c : Compiler} {catalog : Catalog}

/-- Whether columns may be compared is a matter of the single comparison. -/
theorem compares_iff {root : Entity} {g : Group} : c.Compares catalog root g ↔
    c.registry.ComparesAs (fun e condition => c.Exposes catalog e condition.column) root g :=
  Iff.rfl

theorem carried_compares : c.Carried catalog (c.Compares catalog) where
  empty e := compares_iff.mpr (Registry.ComparesAs.empty _ _ e)
  own e table params mode htable := by
    refine compares_iff.mpr (Registry.ComparesAs.own fun l hl => ?_)
    have hcolumn := (of_mem_located_buildPredicate hl).2
    rw [Catalog.searchable, List.mem_filter] at hcolumn
    refine ⟨table, htable, hcolumn.1, ?_⟩
    simpa using hcolumn.2
  joined _ hrelation hfound hbelow :=
    compares_iff.mpr (Registry.ComparesAs.joined (Registry.of_relation hrelation).2.2
      (compares_iff.mp hfound) (compares_iff.mp hbelow))

/-- **A search compares no excluded and no foreign column**: every comparison in it
is of a column of the table of the entity that it is about, and the column is neither
excluded there nor kept from searches. It does not have the name of the broad-search
parameter either, if this is the name that is kept from searches. -/
theorem Makes.compares {result : CompiledSearch} (h : c.Makes catalog result) :
    ∃ root, c.registry.find? result.entity = some root ∧ result.table = root.table ∧
      ∀ l ∈ result.predicate.located, ∃ e table, c.registry.filtered? root l.1 = some e ∧
        catalog.table e.table = .ok table ∧ l.2.column ∈ table.columnNames ∧
        l.2.column ∉ e.spec.excludedKeys ∧ l.2.column ≠ c.columnAlias ∧
        (c.columnAlias = c.settings.broadKey → l.2.column ≠ c.settings.broadKey) := by
  obtain ⟨root, hroot, htable, hcompares⟩ := h.of_carried carried_compares
  refine ⟨root, hroot, htable, fun l hl => ?_⟩
  obtain ⟨e, he, table, htable, hcolumn, hexcluded, halias⟩ := hcompares l hl
  exact ⟨e, table, he, htable, hcolumn, hexcluded, halias, fun hsame => hsame ▸ halias⟩

/-- A broad search that goes round the circle of a pond. -/
theorem Makes.compares_pond :
    ∃ result, Pond.compiler.Makes Pond.catalog result ∧
      ∃ root, Pond.registry.find? result.entity = some root ∧ result.table = root.table ∧
        ∀ l ∈ result.predicate.located, ∃ e table, Pond.registry.filtered? root l.1 = some e ∧
          Pond.catalog.table e.table = .ok table ∧ l.2.column ∈ table.columnNames ∧
          l.2.column ∉ e.spec.excludedKeys ∧ l.2.column ≠ "q" ∧
          ("q" = "q" → l.2.column ≠ "q") := by
  obtain ⟨result, h⟩ := exists_of_toBool (x := Pond.compiler.compile Pond.catalog "Pond"
    (.value (.map [(.str "q", .str "koi")])) Pond.following Pond.clock) (by decide +kernel)
  exact ⟨result, .compiled h, Makes.compares (.compiled h)⟩

end Compiler

/-- The compiler of a pond with a configuration of its own, in which the name of a
column is that of the broad-search parameter. -/
def Pond.renamed : Compiler :=
  ⟨registry, "main", { Settings.usual with broadKey := "name", broadKey_nonblank := by decide }, "q"⟩

/-- With a name of its own for the broad-search parameter, a compiler compares a
column of this name. -/
theorem Compiler.Makes.not_compares_broadKey :
    ∃ result, Pond.renamed.Makes Pond.catalog result ∧
      ∃ l ∈ result.predicate.located, l.2.column = Pond.renamed.settings.broadKey := by
  obtain ⟨result, h, hany⟩ := exists_of_map_ok
    (x := Pond.renamed.compile Pond.catalog "Pond" (.value (.map [(.str "name", .str "koi")]))
      SearchOptions.plain Pond.clock)
    (f := fun s => s.predicate.located.any fun l => l.2.column == "name") (b := true)
    (by decide +kernel)
  obtain ⟨l, hl, hcolumn⟩ := List.any_eq_true.mp hany
  exact ⟨result, .compiled h, l, hl, eq_of_beq hcolumn⟩

end RelationalSearch
