import CrateHeader.Proofs.Capturing
import CrateHeader.Proofs.TypeTexts

/-!
# Arguments that look alike

Types look alike if they differ in nothing that a text shows: in whether pointers may be null, in the names of
callback parameters, in whether callbacks return. The name of an instance does not show that either. But an
instance is kept at the arguments that it was made for, and at no others that look like them. So a template may
be used with one of several lists of arguments that look alike: any other needs an instance of its own, and its
name is taken.
-/

namespace CrateHeader

namespace Ty

variable {dropUnderscores : Bool} {args args' : List Ty}

/-! ### What types that look alike share -/

mutual
theorem mangle_plain (dropUnderscores : Bool) : (t : Ty) → t.plain.mangle dropUnderscores = t.mangle dropUnderscores
  | .primitive _ => rfl
  | .path _ [] => rfl
  | .path _ (t :: rest) => by
    have hall := mangleAll_plain dropUnderscores (t :: rest)
    rw [plainAll] at hall
    simp only [plain, plainAll, mangle, hall]
  | .pointer target _ _ => by simp only [plain, mangle, mangle_plain dropUnderscores target]
  | .array element _ => by simp only [plain, mangle, mangle_plain dropUnderscores element]
  | .function params ret _ => by
    simp only [plain, mangle, mangleParams_plain dropUnderscores params, mangle_plain dropUnderscores ret]

theorem mangleAll_plain (dropUnderscores : Bool) : (ts : List Ty) →
    mangleAll dropUnderscores (plainAll ts) = mangleAll dropUnderscores ts
  | [] => rfl
  | t :: rest => by
    simp only [plainAll, mangleAll, mangle_plain dropUnderscores t, mangleAll_plain dropUnderscores rest]

theorem mangleParams_plain (dropUnderscores : Bool) : (ps : List (Option String × Ty)) →
    mangleParams dropUnderscores (plainParams ps) = mangleParams dropUnderscores ps
  | [] => rfl
  | (_, t) :: rest => by
    simp only [plainParams, mangleParams, mangle_plain dropUnderscores t, mangleParams_plain dropUnderscores rest]
end

theorem plainAll_eq_map (ts : List Ty) : plainAll ts = ts.map plain := by
  induction ts with
  | nil => rfl
  | cons t rest ih => rw [plainAll, ih, List.map_cons]

/-- Arguments that look alike make one name. -/
theorem mangledName_alike (template : String) (h : plainAll args = plainAll args') :
    mangledName template args dropUnderscores = mangledName template args' dropUnderscores := by
  have hall : mangleAll dropUnderscores args = mangleAll dropUnderscores args' := by
    rw [← mangleAll_plain, h, mangleAll_plain]
  simp only [mangledName, hall]

/-- Messages do not tell arguments apart that look alike. -/
theorem instanceText_alike (template : String) (h : plainAll args = plainAll args') :
    instanceText template args = instanceText template args' := by
  have hall : textAll args = textAll args' := by rw [← textAll_plain, h, textAll_plain]
  simp only [instanceText, hall]

theorem length_alike (h : plainAll args = plainAll args') : args.length = args'.length := by
  have hlength := congrArg List.length h
  rwa [plainAll_eq_map, plainAll_eq_map, List.length_map, List.length_map] at hlength

end Ty

namespace Workshop

variable {base : Library} {ceiling : Ceiling} {included excluded : List String} {w w' : Workshop}
  {template owner : Entity} {args : List Ty} {m : Ty.Mention} {firstSeq depth : Nat} {dropUnderscores : Bool}
  {i : Instance}

/-! ### Asking for an instance -/

theorem Grown.name_eq_of_key (hw : Grown base firstSeq dropUnderscores w) (hi : i ∈ w.library.instances) :
    i.name = Ty.mangledName i.key.template i.key.args dropUnderscores := by
  obtain ⟨t, ht⟩ := hw.copies i hi
  rw [ht.template, Instance.name, ht.made]
  rfl

/-- An instance is found at its own key. -/
theorem Grown.instance?_key (hw : Grown base firstSeq dropUnderscores w) (hi : i ∈ w.library.instances) :
    w.library.instance? i.key = some i := by
  have hsome : (w.library.instance? i.key).isSome = true := List.find?_isSome.2 ⟨i, hi, by simp⟩
  obtain ⟨j, hj⟩ := Option.isSome_iff_exists.1 hsome
  have hmem := List.mem_of_find?_eq_some hj
  have hkey : j.key = i.key := by simpa using List.find?_some hj
  rw [hj, List.inj_on_of_nodup_map hw.keys hmem hi hkey]

/-- Nothing is found at other arguments that look like those of an instance, for it would have the same name. -/
theorem Grown.instance?_alike (hw : Grown base firstSeq dropUnderscores w) (hi : i ∈ w.library.instances)
    (halike : Ty.plainAll args = Ty.plainAll i.key.args) (hne : args ≠ i.key.args) :
    w.library.instance? ⟨i.key.template, args⟩ = none := by
  cases hfound : w.library.instance? ⟨i.key.template, args⟩ with
  | none => rfl
  | some j =>
    have hj := List.mem_of_find?_eq_some hfound
    have hkey : j.key = ⟨i.key.template, args⟩ := by simpa using List.find?_some hfound
    have hname : j.name = i.name := by
      rw [hw.name_eq_of_key hj, hw.name_eq_of_key hi, hkey]
      exact Ty.mangledName_alike _ halike
    have heq : j = i := List.inj_on_of_nodup_map hw.nodup_names hj hi hname
    rw [heq] at hkey
    exact absurd (congrArg InstanceKey.args hkey).symm hne

/-- Asking for an instance at arguments that look like those of one that is there gives it if they are the same,
and is a collision with it otherwise, unless it fails at the ceiling already. -/
theorem Grown.instantiate_alike (hw : Grown base firstSeq ceiling.dropUnderscores w)
    (ht : template ∈ base.entities) (hi : i ∈ w.library.instances) (htemplate : i.key.template = template.name)
    (halike : Ty.plainAll args = Ty.plainAll i.key.args) (depth : Int) :
    w.instantiate ceiling template args depth =
      if args = i.key.args then .ok (i.made, w)
      else if depth > ceiling.maxDepth ∨ args.any fun a => a.depth > ceiling.maxDepth then
        .error (.tooDeep template.name i.key.text ceiling.maxDepth)
      else .error (.collision template.name i.key.text i.name i.key.text) := by
  have hlabel : (InstanceKey.mk template.name args).text = i.key.text := by
    rw [InstanceKey.text, InstanceKey.text, htemplate]
    exact Ty.instanceText_alike _ halike
  have hname : Ty.mangledName template.name args ceiling.dropUnderscores = i.name := by
    rw [hw.name_eq_of_key hi, htemplate]
    exact Ty.mangledName_alike _ halike
  have hcount : args.length = template.generics.length := by
    obtain ⟨t, hcopy⟩ := hw.copies i hi
    have heq : t = template :=
      Library.eq_of_name_eq hw.isTable_base hcopy.mem ht (hcopy.template.symm.trans htemplate)
    rw [Ty.length_alike halike, hcopy.count, heq]
  unfold Workshop.instantiate
  dsimp only
  by_cases hsame : args = i.key.args
  · have hkey : InstanceKey.mk template.name args = i.key := by rw [hsame, ← htemplate]
    rw [if_pos hsame, hkey, hw.instance?_key hi]
    exact congrArg (fun e => Except.ok (e, w)) (hw.entityOf_eq hi)
  · have hnone := hw.instance?_alike hi halike hsame
    rw [htemplate] at hnone
    have htaken : w.library.get? i.name = some i.made :=
      Library.get?_of_mem hw.table (hw.mem_entities.2 (Or.inr ⟨i, hi, rfl⟩))
    have howner : ownerText i.made = i.key.text := by rw [ownerText, hw.instanceOf_made hi]
    rw [if_neg hsame, hnone, hlabel, hname, htaken, ← howner]
    dsimp only
    rw [if_neg (not_not.2 hcount)]

/-- A collision is with what has the name, and there is no instance at the arguments. -/
theorem instantiate_collision {t label name taken : String} {depth : Int}
    (h : w.instantiate ceiling template args depth = .error (.collision t label name taken)) :
    w.library.instance? ⟨template.name, args⟩ = none ∧ t = template.name ∧
      label = Ty.instanceText template.name args ∧
      name = Ty.mangledName template.name args ceiling.dropUnderscores ∧
      ∃ e, w.library.get? name = some e ∧ taken = ownerText e := by
  unfold instantiate at h
  dsimp only at h
  split at h
  · cases h
  · next hnone =>
    split at h
    · cases h
    · split at h
      · cases h
      · split at h
        · next e he =>
          cases h
          exact ⟨hnone, rfl, rfl, rfl, e, he, rfl⟩
        · cases h

/-- Following a path collides where it asks for an instance. -/
theorem follow_collision {t label name taken : String}
    (h : w.follow ceiling excluded owner m depth = .error (.collision t label name taken)) :
    ∃ target, w.library.get? m.name = some target ∧ m.name ∉ excluded ∧ target.isGeneric = true ∧
      w.instantiate ceiling target m.args (depth + 1) = .error (.collision t label name taken) := by
  unfold follow at h
  split at h
  · cases h
  · next target htarget =>
    by_cases hexcluded : m.name ∈ excluded
    · rw [if_pos (by simpa using hexcluded)] at h
      cases h
    · rw [if_neg (by simpa using hexcluded)] at h
      split at h
      · next hgeneric =>
        split at h
        · cases h
        · refine ⟨target, htarget, hexcluded, hgeneric, ?_⟩
          cases hmade : w.instantiate ceiling target m.args (depth + 1) with
          | error e =>
            rw [hmade] at h
            cases h
            rfl
          | ok made =>
            rw [hmade] at h
            cases h
      · split at h
        · cases h
        · cases h

end Workshop

/-! ### How a walk fails -/

namespace Walk

variable {base : Library} {ceiling : Ceiling} {included excluded : List String} {w : Walk}
  {owner : Entity} {left : List Ty.Mention} {depth firstSeq : Nat} {failure : WalkFailure}

/-- A walk fails at a path of a member of the surface, in a workshop that has only grown. -/
def FailsAt (base : Library) (firstSeq : Nat) (ceiling : Ceiling) (included excluded : List String)
    (failure : WalkFailure) : Prop :=
  Workshop.Grown base firstSeq ceiling.dropUnderscores failure.workshop ∧
    ∃ s, OnSurface base included excluded s ∧ ∃ m ∈ s.mentions, ∃ owner depth,
      failure.workshop.follow ceiling excluded owner m depth = .error failure.error

theorem Visiting.failsAt_of_visit
    (hw : Visiting base firstSeq ceiling.dropUnderscores included excluded owner left w)
    (h : Walk.visit ceiling excluded owner depth left w = .error failure) :
    FailsAt base firstSeq ceiling included excluded failure := by
  induction left generalizing w with
  | nil => cases h
  | cons m rest ih =>
    have hm := hw.own m List.mem_cons_self
    simp only [Walk.visit] at h
    split at h
    · next e herror =>
      cases h
      obtain ⟨s, seq, hs, rfl⟩ := hw.inv.sound hw.present hw.reached
      rw [Member.mentions_entity] at hm
      exact ⟨hw.inv.grown, s, hs, m, hm, _, depth, herror⟩
    · next found hfound => exact ih (hw.step rfl hfound) h

theorem Inv.failsAt_of_run (hw : Inv base firstSeq ceiling.dropUnderscores included excluded owner [] w)
    (h : Walk.run ceiling excluded w = .error failure) :
    FailsAt base firstSeq ceiling included excluded failure := by
  induction w using Walk.run.induct ceiling excluded generalizing owner with
  | case1 w hq =>
    rw [run_of_nil hq] at h
    cases h
  | case2 w e depth rest hq failed hv =>
    rw [run_of_failure hq hv] at h
    cases h
    exact (hw.visiting hq).failsAt_of_visit hv
  | case3 w e depth rest hq after hv _ ih =>
    rw [run_of_visit hq hv] at h
    exact ih ((hw.visiting hq).visit rfl hv).inv h

/-- With nothing left to visit, there is an instance at each list of arguments that the surface uses. -/
theorem Inv.exists_instance (hw : Inv base firstSeq ceiling.dropUnderscores included excluded owner [] w)
    (hq : w.queue = []) {t : Entity} {args : List Ty} (h : OnSurface base included excluded (.made t args)) :
    ∃ i ∈ w.workshop.library.instances, i.key = ⟨t.name, args⟩ := by
  cases h with
  | @generic s m _ hs hm hkept ht hgeneric =>
    obtain ⟨e, he, hreached, seq, rfl⟩ := hw.reached_of_onSurface hq hs
    have hm' : m ∈ (s.entity ceiling.dropUnderscores seq).mentions := by rwa [Member.mentions_entity]
    exact (hw.followed_of_reached hq he hreached hm' hkept _ ht).2 hgeneric

end Walk

namespace Workshop

variable {ceiling : Ceiling} {included excluded : List String} {w w' : Workshop}

theorem failsAt_of_specialize {e : SpecializationError} (htable : w.library.IsTable)
    (hfresh : w.library.instances = []) (h : w.specialize ceiling included excluded = (w', .error e)) :
    Walk.FailsAt w.library w.nextSeq ceiling included excluded ⟨e, w'⟩ := by
  unfold specialize at h
  dsimp only at h
  split at h
  · next failure hrun =>
    cases h
    exact (inv_start_start htable hfresh).failsAt_of_run (w := w.start included excluded) hrun
  · cases h

/-- A template is used with one of several lists of arguments that look alike, or specialization fails. What is
made for one of them cannot be had for another: that is a collision, unless it fails at the ceiling already.
Where specialization fails with a collision, there is no instance at the arguments that the surface uses, but
something that has its name. -/
theorem specialize_alike (htable : w.library.IsTable) (hfresh : w.library.instances = []) :
    (∀ w', w.specialize ceiling included excluded = (w', .ok ()) → ∀ t args args',
      OnSurface w.library included excluded (.made t args) →
      OnSurface w.library included excluded (.made t args') →
      Ty.plainAll args = Ty.plainAll args' → args = args') ∧
    (∀ shop, Grown w.library w.nextSeq ceiling.dropUnderscores shop →
      ∀ i ∈ shop.library.instances, ∀ t ∈ w.library.entities, i.key.template = t.name →
      ∀ args, Ty.plainAll args = Ty.plainAll i.key.args → ∀ depth : Int,
        shop.instantiate ceiling t args depth =
          if args = i.key.args then .ok (i.made, shop)
          else if depth > ceiling.maxDepth ∨ args.any fun a => a.depth > ceiling.maxDepth then
            .error (.tooDeep t.name i.key.text ceiling.maxDepth)
          else .error (.collision t.name i.key.text i.name i.key.text)) ∧
    ∀ w' name label mangled taken,
      w.specialize ceiling included excluded = (w', .error (.collision name label mangled taken)) →
      ∃ t args, OnSurface w.library included excluded (.made t args) ∧ name = t.name ∧
        label = Ty.instanceText t.name args ∧
        mangled = Ty.mangledName t.name args ceiling.dropUnderscores ∧
        (∃ e ∈ w'.library.entities, e.name = mangled ∧ taken = ownerText e) ∧
        ∀ i ∈ w'.library.instances, i.key.template = t.name → i.key.args ≠ args := by
  refine ⟨fun w' h t args args' hargs hargs' halike => ?_,
    fun shop hshop i hi t ht htemplate args halike depth => hshop.instantiate_alike ht hi htemplate halike depth,
    fun w' name label mangled taken h => ?_⟩
  · obtain ⟨walk, owner, hinv, hq, _⟩ := specialize_ok htable hfresh h
    obtain ⟨i, hi, hkey⟩ := hinv.exists_instance hq hargs
    obtain ⟨j, hj, hkey'⟩ := hinv.exists_instance hq hargs'
    have hname : i.name = j.name := by
      rw [hinv.grown.name_eq_of_key hi, hinv.grown.name_eq_of_key hj, hkey, hkey']
      exact Ty.mangledName_alike _ halike
    rw [List.inj_on_of_nodup_map hinv.grown.nodup_names hi hj hname, hkey'] at hkey
    exact (congrArg InstanceKey.args hkey).symm
  · obtain ⟨hgrown, s, hs, m, hm, owner, depth, hfollow⟩ := failsAt_of_specialize htable hfresh h
    obtain ⟨t, ht, hkept, hgeneric, hcollision⟩ := follow_collision hfollow
    obtain ⟨hnone, rfl, rfl, rfl, e, he, rfl⟩ := instantiate_collision hcollision
    have hbase := hgrown.mem_base_of_isGeneric (Library.mem_of_get? ht) hgeneric
    have hfind : w.library.get? m.name = some t :=
      (Library.get?_eq_some_iff htable).2 ⟨hbase, Library.name_of_get? ht⟩
    refine ⟨t, m.args, .generic hs hm hkept hfind hgeneric, rfl, rfl, rfl,
      ⟨e, Library.mem_of_get? he, Library.name_of_get? he, rfl⟩, fun i hi htemplate hargs => ?_⟩
    have hnot : ¬ decide (i.key = ⟨t.name, m.args⟩) = true := List.find?_eq_none.1 hnone i hi
    refine hnot (decide_eq_true ?_)
    rw [← htemplate, ← hargs]

/-- What a reference and what a raw pointer is as an argument. -/
def borrowed : Ty := (Expr.pointer (.path "Foo" []) false true).lower []

def shared : Ty := (Expr.pointer (.path "Foo" []) false false).lower []

def rackSlot : Entity := { Entity.bare "Slot" 1 (.struct [.bare "item" (.path "T" [])]) with generics := ["T"] }

def rackRack : Entity :=
  .bare "Rack" 2 (.struct [.bare "owned" (.path "Slot" [borrowed]), .bare "lent" (.path "Slot" [shared])])

/-- A template and a struct that uses it with a reference and with a raw pointer. -/
def rack : Workshop := ⟨⟨[.bare "Foo" 0 (.struct []), rackSlot, rackRack], [], []⟩, 1, []⟩

/-- The workshop in which the walk through the rack fails. -/
def rackLeft : Workshop :=
  list { rack with log := rack.log ++ rack.library.rootsLog [] [] }
    (makeInstance rackSlot [borrowed] "Slot_ConstPtr_Foo" 1) ⟨"Slot", [borrowed]⟩

theorem isTable_rack : rack.library.IsTable := by
  unfold Library.IsTable
  decide

theorem specialize_rack : rack.specialize ⟨4, false⟩ [] [] =
    (rackLeft, .error (.collision "Slot" "Slot<*const Foo>" "Slot_ConstPtr_Foo" "Slot<*const Foo>")) := by
  let logged : Workshop := { rack with log := rack.log ++ rack.library.rootsLog [] [] }
  let foo : Entity := .bare "Foo" 0 (.struct [])
  have hstart : rack.start [] [] = ⟨logged, ["Foo", "Rack"], [(foo, 0), (rackRack, 0)]⟩ := by cbv
  have hfoo : Walk.visit ⟨4, false⟩ [] foo 0 foo.mentions ⟨logged, ["Foo", "Rack"], [(rackRack, 0)]⟩ =
      .ok ⟨logged, ["Foo", "Rack"], [(rackRack, 0)]⟩ := rfl
  have hrack : Walk.visit ⟨4, false⟩ [] rackRack 0 rackRack.mentions ⟨logged, ["Foo", "Rack"], []⟩ =
      .error ⟨.collision "Slot" "Slot<*const Foo>" "Slot_ConstPtr_Foo" "Slot<*const Foo>", rackLeft⟩ := rfl
  have hrun : Walk.run ⟨4, false⟩ [] (rack.start [] []) =
      .error ⟨.collision "Slot" "Slot<*const Foo>" "Slot_ConstPtr_Foo" "Slot<*const Foo>", rackLeft⟩ := by
    rw [hstart, Walk.run_of_visit rfl hfoo, Walk.run_of_failure rfl hrack]
  exact specialize_of_failure hrun

theorem specialize_alike_rack : rack.library.IsTable ∧ rack.library.instances = [] ∧
    rack.specialize ⟨4, false⟩ [] [] =
      (rackLeft, .error (.collision "Slot" "Slot<*const Foo>" "Slot_ConstPtr_Foo" "Slot<*const Foo>")) ∧
    ∃ t args, OnSurface rack.library [] [] (.made t args) ∧ "Slot" = t.name ∧
      "Slot<*const Foo>" = Ty.instanceText t.name args ∧
      "Slot_ConstPtr_Foo" = Ty.mangledName t.name args false ∧
      (∃ e ∈ rackLeft.library.entities, e.name = "Slot_ConstPtr_Foo" ∧ "Slot<*const Foo>" = ownerText e) ∧
      ∀ i ∈ rackLeft.library.instances, i.key.template = t.name → i.key.args ≠ args :=
  ⟨isTable_rack, rfl, specialize_rack, (specialize_alike isTable_rack rfl).2.2 _ _ _ _ _ specialize_rack⟩

/-- A reference and a raw pointer look alike and make one name, but the template cannot be used with both: the
collision is between its two instances. -/
theorem specialize_rack_collides : rack.library.IsTable ∧ rack.library.instances = [] ∧
    OnSurface rack.library [] [] (.made rackSlot [borrowed]) ∧
    OnSurface rack.library [] [] (.made rackSlot [shared]) ∧
    Ty.plainAll [borrowed] = Ty.plainAll [shared] ∧ [borrowed] ≠ [shared] ∧
    Ty.mangledName "Slot" [borrowed] false = Ty.mangledName "Slot" [shared] false ∧
    rackLeft.library.instances.map (·.key) = [⟨"Slot", [borrowed]⟩] ∧
    rack.specialize ⟨4, false⟩ [] [] =
      (rackLeft, .error (.collision "Slot" "Slot<*const Foo>" "Slot_ConstPtr_Foo" "Slot<*const Foo>")) := by
  have hroot : OnSurface rack.library [] [] (.declared rackRack) :=
    .root (List.mem_of_mem_getLast? rfl) rfl List.not_mem_nil (Or.inl rfl)
  have hfound : rack.library.get? "Slot" = some rackSlot := by decide
  have hmentions : rackRack.mentions =
      [⟨"Slot", [borrowed], false⟩, ⟨"Slot", [shared], false⟩] := rfl
  have hmade : ∀ m ∈ rackRack.mentions, OnSurface rack.library [] [] (.made rackSlot m.args) := by
    intro m hm
    refine .generic hroot hm List.not_mem_nil ?_ rfl
    rw [hmentions] at hm
    rcases List.mem_cons.1 hm with rfl | hm
    · exact hfound
    · rw [List.mem_singleton.1 hm]
      exact hfound
  rw [hmentions] at hmade
  exact ⟨isTable_rack, rfl, hmade _ List.mem_cons_self, hmade _ (List.mem_cons_of_mem _ List.mem_cons_self),
    by decide, by decide, by decide, by cbv, specialize_rack⟩

end Workshop

end CrateHeader
