import CrateHeader.Library.Session

/-!
# Names for C come from the source alone

Giving names to C looks at what an entity has from its source and at the settings, never at the names for C that
it finds, and writes nothing else than these. Both are said by the library without its names for C: naming it is
naming the library, and naming leaves it as it is. So only the settings that were used last count.
-/

namespace CrateHeader

/-! ### What is left without the names -/

def Field.withoutExportName (f : Field) : Field := { f with exportName := "" }

def Variant.withoutExportNames (v : Variant) : Variant :=
  { v with exportName := "", fields := v.fields.map Field.withoutExportName }

/-- An argument that the source gives no name is given none for C either, and keeps what it has. -/
def Argument.withoutExportName (a : Argument) : Argument :=
  { a with exportName := if a.name.isSome then none else a.exportName }

def Body.withoutExportNames : Body → Body
  | struct fields => struct (fields.map Field.withoutExportName)
  | union fields => union (fields.map Field.withoutExportName)
  | enum variants => enum (variants.map Variant.withoutExportNames)
  | function args ret never => function (args.map Argument.withoutExportName) ret never
  | body => body

@[simp] theorem Body.kind_withoutExportNames (b : Body) : b.withoutExportNames.kind = b.kind := by
  cases b <;> rfl

def Entity.withoutExportNames (e : Entity) : Entity :=
  { e with exportName := "", body := e.body.withoutExportNames }

def Library.withoutExportNames (lib : Library) : Library := lib.mapEntities Entity.withoutExportNames

/-! ### Members -/

section Members

variable (rule : RenameRule)

@[simp] theorem Field.withoutExportName_named (f : Field) :
    (f.named rule).withoutExportName = f.withoutExportName := rfl

@[simp] theorem Field.named_withoutExportName (f : Field) : f.withoutExportName.named rule = f.named rule := rfl

@[simp] theorem Argument.withoutExportName_named (a : Argument) :
    (a.named rule).withoutExportName = a.withoutExportName := by
  obtain ⟨name, _⟩ := a
  cases name <;> rfl

@[simp] theorem Argument.named_withoutExportName (a : Argument) : a.withoutExportName.named rule = a.named rule := by
  obtain ⟨name, _⟩ := a
  cases name <;> rfl

end Members

/-! ### Entities -/

namespace Entity

variable (settings : Settings)

/-- Naming writes nothing but names for C. -/
theorem withoutExportNames_assignNames (e : Entity) :
    (e.assignNames settings).withoutExportNames = e.withoutExportNames := by
  unfold assignNames nameMembers withoutExportNames
  cases e.body <;> simp [Body.withoutExportNames, Variant.withoutExportNames]

theorem exportNameFor_withoutExportNames (surface : ExportSettings) (e : Entity) :
    e.withoutExportNames.exportNameFor surface = e.exportNameFor surface := by
  have htype : e.withoutExportNames.isType = e.isType :=
    congrArg EntityKind.isType e.body.kind_withoutExportNames
  unfold exportNameFor
  rw [htype]
  rfl

/-- Naming reads no name for C: that of the entity, which its variants take up, is given before. -/
theorem assignNames_withoutExportNames (e : Entity) :
    e.withoutExportNames.assignNames settings = e.assignNames settings := by
  unfold assignNames
  rw [exportNameFor_withoutExportNames]
  unfold nameMembers withoutExportNames
  cases e.body <;> simp [Body.withoutExportNames, Variant.withoutExportNames, Variant.exportNameFor, memberRule]

end Entity

/-! ### Libraries -/

namespace Library

variable (settings : Settings) (lib : Library)

theorem withoutExportNames_assignNames : (lib.assignNames settings).withoutExportNames = lib.withoutExportNames := by
  simp [assignNames, withoutExportNames, mapEntities, Function.comp_def, Entity.withoutExportNames_assignNames]

theorem assignNames_withoutExportNames : lib.withoutExportNames.assignNames settings = lib.assignNames settings := by
  simp [assignNames, withoutExportNames, mapEntities, Function.comp_def, Entity.assignNames_withoutExportNames]

/-- Libraries that differ by names for C alone are named alike. -/
theorem assignNames_congr {lib lib' : Library} (h : lib.withoutExportNames = lib'.withoutExportNames) :
    lib.assignNames settings = lib'.assignNames settings := by
  rw [← assignNames_withoutExportNames, h, assignNames_withoutExportNames]

end Library

/-! ### Sessions -/

namespace Session

variable (ceiling : Ceiling) (s : Session)

/-- However often a session has named its library, it has changed names for C only. -/
theorem exists_run_assignNames (earlier : List Settings) : ∃ lib : Library,
    lib.withoutExportNames = s.library.withoutExportNames ∧
    s.run ceiling (earlier.map .assignNames) = s.withLibrary lib := by
  induction earlier generalizing s with
  | nil => exact ⟨s.library, rfl, rfl⟩
  | cons settings rest ih =>
    obtain ⟨lib, hlib, hrun⟩ := ih (s.step ceiling (.assignNames settings))
    exact ⟨lib, hlib.trans (s.library.withoutExportNames_assignNames settings), hrun⟩

/-- What was named before, and how, does not matter to the next naming. -/
theorem run_assignNames (earlier : List Settings) (last : Settings) :
    s.run ceiling (earlier.map .assignNames ++ [.assignNames last]) = s.run ceiling [.assignNames last] := by
  obtain ⟨lib, hlib, hrun⟩ := exists_run_assignNames ceiling s earlier
  calc
    s.run ceiling (earlier.map .assignNames ++ [.assignNames last])
      = (s.run ceiling (earlier.map .assignNames)).step ceiling (.assignNames last) := by
        rw [run, List.foldl_append]
        rfl
    _ = s.withLibrary (lib.assignNames last) := by
      rw [hrun]
      rfl
    _ = s.withLibrary (s.library.assignNames last) := by rw [Library.assignNames_congr last hlib]

end Session

/-- A library that is named twice has the names that the second settings give it, and all but its names for C is as
it was before. In a session this holds however often, and by which settings, the library has been named. -/
theorem Library.assignNames_again (first last : Settings) (lib : Library) :
    (lib.assignNames first).assignNames last = lib.assignNames last ∧
    (lib.assignNames first).withoutExportNames = lib.withoutExportNames ∧
    ∀ ceiling (s : Session) (earlier : List Settings),
      s.run ceiling (earlier.map .assignNames ++ [.assignNames last]) = s.run ceiling [.assignNames last] := by
  have hframe := lib.withoutExportNames_assignNames first
  exact ⟨assignNames_congr last hframe, hframe, fun ceiling s earlier => s.run_assignNames ceiling earlier last⟩

end CrateHeader
