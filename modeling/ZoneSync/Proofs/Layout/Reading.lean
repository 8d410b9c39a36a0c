import ZoneSync.Layout.Parser

/-!
# What reading does, line by line

A text is accepted if every line has a known shape and the effects of the lines can follow each
other. `Effect` lists once what a line of each shape needs and what it changes; whatever holds at
the start and is kept by these effects holds of everything that is read.
-/

namespace ZoneSync

section Except

variable {ε ε' α β : Type}

theorem bind_eq_ok_iff {x : Except ε α} {f : α → Except ε β} {b : β} :
    (x >>= f) = .ok b ↔ ∃ a, x = .ok a ∧ f a = .ok b := by
  cases x with
  | error e => simp [bind, Except.bind]
  | ok a => simp [bind, Except.bind]

theorem map_eq_ok_iff {x : Except ε α} {f : α → β} {b : β} :
    x.map f = .ok b ↔ ∃ a, x = .ok a ∧ f a = b := by
  cases x <;> simp [Except.map]

theorem mapError_eq_ok_iff {x : Except ε α} {f : ε → ε'} {a : α} :
    x.mapError f = .ok a ↔ x = .ok a := by
  cases x with
  | error e => exact ⟨nofun, nofun⟩
  | ok b =>
    have hmap : (Except.ok b).mapError f = .ok b := rfl
    rw [hmap, Except.ok.injEq, Except.ok.injEq]

theorem bind_eq_error_iff {x : Except ε α} {f : α → Except ε β} {error : ε} :
    (x >>= f) = .error error ↔ x = .error error ∨ ∃ a, x = .ok a ∧ f a = .error error := by
  cases x <;> simp [bind, Except.bind]

theorem map_eq_error_iff {x : Except ε α} {f : α → β} {error : ε} :
    x.map f = .error error ↔ x = .error error := by
  cases x <;> simp [Except.map]

theorem mapError_eq_error_iff {x : Except ε α} {f : ε → ε'} {error : ε'} :
    x.mapError f = .error error ↔ ∃ cause, x = .error cause ∧ f cause = error := by
  cases x with
  | error e =>
    have hmap : (Except.error e : Except ε α).mapError f = .error (f e) := rfl
    rw [hmap]
    simp
  | ok a => exact ⟨nofun, nofun⟩

theorem mapError_mapError {ε'' : Type} (x : Except ε α) (f : ε → ε') (g : ε' → ε'') :
    (x.mapError f).mapError g = x.mapError fun error => g (f error) := by
  cases x <;> rfl

theorem mapError_bind (x : Except ε α) (f : α → Except ε β) (g : ε → ε') :
    (x >>= f).mapError g = x.mapError g >>= fun a => (f a).mapError g := by
  cases x <;> rfl

end Except

namespace Layout

/-- What the line declares in the open zone, if it is a directive or a record. -/
def Shape.entry? : Shape → Option (Except Fault Entry)
  | .directive action filters =>
    some (((Directive.parse action filters).mapError .directive).map .directive)
  | .record type hostname destination priority =>
    some ((Reading.readRecord type hostname destination priority).map .record)
  | _ => none

namespace Reading

variable {reading next : Reading} {draft other : Draft} {domain : String}

/-! ### The parts of a reading -/

theorem openDraft_eq_ok_iff : reading.openDraft = .ok draft ↔ reading.openDraft? = some draft := by
  rw [openDraft]
  cases reading.openDraft? <;> simp

theorem current_of_openDraft? (hopen : reading.openDraft? = some draft) :
    reading.current = some draft.domain := by
  obtain ⟨domain, hcurrent, hfind⟩ := Option.bind_eq_some_iff.1 hopen
  have hdomain := List.find?_some hfind
  rw [hcurrent, of_decide_eq_true hdomain]

theorem mem_of_openDraft? (hopen : reading.openDraft? = some draft) : draft ∈ reading.drafts := by
  obtain ⟨domain, -, hfind⟩ := Option.bind_eq_some_iff.1 hopen
  exact List.mem_of_find?_eq_some hfind

theorem domains_update :
    (reading.update draft).drafts.map Draft.domain = reading.drafts.map Draft.domain := by
  rw [update, List.map_map]
  refine List.map_congr_left fun other _ => ?_
  rw [Function.comp_apply]
  split
  · next hsame => exact hsame.symm
  · rfl

theorem mem_update (hother : other ∈ (reading.update draft).drafts) :
    other = draft ∨ other ∈ reading.drafts ∧ other.domain ≠ draft.domain := by
  obtain ⟨before, hbefore, heq⟩ := List.mem_map.1 hother
  split at heq
  · exact Or.inl heq.symm
  · next hdomain => exact Or.inr ⟨heq ▸ hbefore, heq ▸ hdomain⟩

theorem any_domain_iff :
    (reading.drafts.any fun draft => draft.domain = domain) = true ↔
      domain ∈ reading.drafts.map Draft.domain := by
  simp

theorem domains_openZone :
    (reading.openZone domain).drafts.map Draft.domain =
      reading.drafts.map Draft.domain ++
        if domain ∈ reading.drafts.map Draft.domain then [] else [domain] := by
  simp only [openZone, any_domain_iff]
  split <;> simp

theorem mem_openZone (hother : other ∈ (reading.openZone domain).drafts) :
    other ∈ reading.drafts ∨
      domain ∉ reading.drafts.map Draft.domain ∧ other = ⟨domain, reading.defaults, []⟩ := by
  simp only [openZone, any_domain_iff] at hother
  split at hother
  · exact Or.inl hother
  · next hnew =>
    rw [List.mem_append, List.mem_singleton] at hother
    exact hother.imp_right fun heq => ⟨hnew, heq⟩

/-! ### One line -/

/-- What a line of some shape makes of what was read before. -/
inductive Effect (reading : Reading) : Shape → Reading → Prop where
  | nothing : reading.Effect .nothing reading
  | default {name value : String} {settings : Settings} :
    assign reading.defaults name value = .ok settings →
      reading.Effect (.default name value) { reading with defaults := settings }
  | zone {domain : String} :
    domain.toList.any Text.isBlank = false →
      reading.Effect (.zone domain) (reading.openZone domain)
  | override {name value : String} {draft : Draft} {settings : Settings} :
    reading.openDraft? = some draft → assign draft.settings name value = .ok settings →
      reading.Effect (.override name value) (reading.update { draft with settings := settings })
  | entry {shape : Shape} {draft : Draft} {entry : Entry} :
    reading.openDraft? = some draft → shape.entry? = some (.ok entry) →
      reading.Effect shape (reading.update { draft with entries := draft.entries ++ [entry] })

theorem addEntry_eq_ok_iff {entry : Entry} :
    reading.addEntry entry = .ok next ↔
      ∃ draft, reading.openDraft? = some draft ∧
        reading.update { draft with entries := draft.entries ++ [entry] } = next := by
  simp only [addEntry, bind_eq_ok_iff, openDraft_eq_ok_iff, pure, Except.pure, Except.ok.injEq]

theorem apply_eq_ok_iff {shape : Shape} :
    reading.apply shape = .ok next ↔ reading.Effect shape next := by
  constructor
  · intro happly
    cases shape with
    | nothing => exact Except.ok.inj happly ▸ .nothing
    | default name value =>
      obtain ⟨settings, hassign, hnext⟩ := bind_eq_ok_iff.1 happly
      exact Except.ok.inj hnext ▸ .default hassign
    | zone domain =>
      rw [apply] at happly
      split at happly
      · exact absurd happly (by simp)
      · next hsolid => exact Except.ok.inj happly ▸ .zone (eq_false_of_ne_true hsolid)
    | override name value =>
      obtain ⟨draft, hopen, happly⟩ := bind_eq_ok_iff.1 happly
      obtain ⟨settings, hassign, hnext⟩ := bind_eq_ok_iff.1 happly
      exact Except.ok.inj hnext ▸ .override (openDraft_eq_ok_iff.1 hopen) hassign
    | directive action filters =>
      obtain ⟨directive, hparse, hadd⟩ := bind_eq_ok_iff.1 happly
      obtain ⟨draft, hopen, rfl⟩ := addEntry_eq_ok_iff.1 hadd
      exact .entry hopen (by rw [Shape.entry?, hparse]; rfl)
    | record type hostname destination priority =>
      obtain ⟨record, hread, hadd⟩ := bind_eq_ok_iff.1 happly
      obtain ⟨draft, hopen, rfl⟩ := addEntry_eq_ok_iff.1 hadd
      exact .entry hopen (by rw [Shape.entry?, hread]; rfl)
  · intro heffect
    cases heffect with
    | nothing => rfl
    | default hassign => exact bind_eq_ok_iff.2 ⟨_, hassign, rfl⟩
    | zone hsolid => rw [apply, hsolid]; rfl
    | override hopen hassign =>
      exact bind_eq_ok_iff.2 ⟨_, openDraft_eq_ok_iff.2 hopen,
        bind_eq_ok_iff.2 ⟨_, hassign, rfl⟩⟩
    | entry hopen hentry =>
      cases shape with
      | directive action filters =>
        obtain ⟨directive, hparse, rfl⟩ := map_eq_ok_iff.1 (Option.some.inj hentry)
        exact bind_eq_ok_iff.2 ⟨_, hparse, addEntry_eq_ok_iff.2 ⟨_, hopen, rfl⟩⟩
      | record type hostname destination priority =>
        obtain ⟨record, hread, rfl⟩ := map_eq_ok_iff.1 (Option.some.inj hentry)
        exact bind_eq_ok_iff.2 ⟨_, hread, addEntry_eq_ok_iff.2 ⟨_, hopen, rfl⟩⟩
      | _ => exact absurd hentry (by simp [Shape.entry?])

theorem step_eq_ok_iff {line : Line} :
    reading.step line = .ok next ↔
      ∃ shape, line.shape? = some shape ∧ reading.Effect shape next := by
  rw [step]
  cases line.shape? with
  | none => simp
  | some shape => simp [mapError_eq_ok_iff, apply_eq_ok_iff]

/-! ### All lines -/

/-- Reading goes by the shapes of the lines. -/
theorem foldlM_step_eq_ok_iff {lines : List Line} :
    lines.foldlM step reading = .ok next ↔
      ∃ shapes : List Shape, lines.map Line.shape? = shapes.map some ∧
        shapes.foldlM apply reading = .ok next := by
  induction lines generalizing reading with
  | nil =>
    constructor
    · exact fun hnext => ⟨[], rfl, congrArg Except.ok (Except.ok.inj hnext)⟩
    · rintro ⟨shapes, hshapes, hnext⟩
      rw [List.map_eq_nil_iff.1 hshapes.symm] at hnext
      exact congrArg Except.ok (Except.ok.inj hnext)
  | cons line rest ih =>
    rw [List.foldlM_cons, bind_eq_ok_iff]
    constructor
    · rintro ⟨middle, hstep, hrest⟩
      obtain ⟨shape, hshape, heffect⟩ := step_eq_ok_iff.1 hstep
      obtain ⟨shapes, hshapes, hnext⟩ := ih.1 hrest
      refine ⟨shape :: shapes, by rw [List.map_cons, List.map_cons, hshape, hshapes], ?_⟩
      rw [List.foldlM_cons, bind_eq_ok_iff]
      exact ⟨middle, apply_eq_ok_iff.2 heffect, hnext⟩
    · rintro ⟨shapes, hshapes, hnext⟩
      obtain ⟨shape, others, rfl⟩ : ∃ shape others, shapes = shape :: others :=
        List.exists_cons_of_ne_nil fun hnil => by simp [hnil] at hshapes
      rw [List.map_cons, List.map_cons, List.cons.injEq] at hshapes
      rw [List.foldlM_cons, bind_eq_ok_iff] at hnext
      obtain ⟨middle, happly, hnext⟩ := hnext
      exact ⟨middle, step_eq_ok_iff.2 ⟨shape, hshapes.1, apply_eq_ok_iff.1 happly⟩,
        ih.2 ⟨others, hshapes.2, hnext⟩⟩

/-- What the effects of the lines keep, from what holds after the lines before. -/
theorem foldlM_step_invariant {holds : List Line → Reading → Prop}
    (hkept : ∀ before line reading shape next, holds before reading →
      line.shape? = some shape → reading.Effect shape next → holds (before ++ [line]) next)
    {before lines : List Line} (hholds : holds before reading)
    (hnext : lines.foldlM step reading = .ok next) : holds (before ++ lines) next := by
  induction lines generalizing reading before with
  | nil =>
    rw [← Except.ok.inj hnext, List.append_nil]
    exact hholds
  | cons line rest ih =>
    rw [List.foldlM_cons, bind_eq_ok_iff] at hnext
    obtain ⟨middle, hstep, hnext⟩ := hnext
    obtain ⟨shape, hshape, heffect⟩ := step_eq_ok_iff.1 hstep
    simpa using ih (hkept before line reading shape middle hholds hshape heffect) hnext

end Reading

variable {text : String} {layout : Layout}

theorem parse_eq_ok_iff :
    parse text = .ok layout ↔
      ∃ (shapes : List Shape) (reading : Reading),
        (Line.ofText text).map Line.shape? = shapes.map some ∧
        shapes.foldlM Reading.apply Reading.start = .ok reading ∧ reading.finish = layout := by
  rw [parse, bind_eq_ok_iff]
  constructor
  · rintro ⟨reading, hread, hfinish⟩
    obtain ⟨shapes, hshapes, happly⟩ := Reading.foldlM_step_eq_ok_iff.1 hread
    exact ⟨shapes, reading, hshapes, happly, Except.ok.inj hfinish⟩
  · rintro ⟨shapes, reading, hshapes, happly, rfl⟩
    exact ⟨reading, Reading.foldlM_step_eq_ok_iff.2 ⟨shapes, hshapes, happly⟩, rfl⟩

/-- What holds of the start and is kept by the effects of the lines holds of what is read. -/
theorem parse_invariant {holds : List Line → Reading → Prop} (hstart : holds [] Reading.start)
    (hkept : ∀ before line reading shape next, holds before reading →
      line.shape? = some shape → reading.Effect shape next → holds (before ++ [line]) next)
    (hparse : parse text = .ok layout) :
    ∃ reading, holds (Line.ofText text) reading ∧ reading.finish = layout := by
  obtain ⟨reading, hread, hfinish⟩ := bind_eq_ok_iff.1 hparse
  exact ⟨reading, Reading.foldlM_step_invariant hkept hstart hread, Except.ok.inj hfinish⟩

/-! ### The zones of what was read -/

theorem place_of_not_mem {zone : Zone} {zones : List Zone}
    (hnew : zone.domain ∉ zones.map Zone.domain) : place zone zones = zones ++ [zone] := by
  induction zones with
  | nil => rfl
  | cons other rest ih =>
    rw [List.map_cons, List.mem_cons, not_or] at hnew
    rw [place, if_neg (Ne.symm hnew.1), ih hnew.2, List.cons_append]

theorem zones_insertAll {zones : List Zone}
    (hnodup : ((layout.zones ++ zones).map Zone.domain).Nodup) :
    (layout.insertAll zones).zones = layout.zones ++ zones := by
  induction zones generalizing layout with
  | nil => exact (List.append_nil _).symm
  | cons zone rest ih =>
    have hnew : zone.domain ∉ layout.zones.map Zone.domain := fun hmem => by
      rw [List.map_append, List.nodup_append] at hnodup
      exact hnodup.2.2 _ hmem _ List.mem_cons_self rfl
    have hinsert : (layout.insert zone).zones = layout.zones ++ [zone] := place_of_not_mem hnew
    rw [insertAll, List.foldl_cons, ← insertAll, ih (by simpa [hinsert] using hnodup), hinsert,
      List.append_assoc, List.singleton_append]

theorem zones_ofZones {zones : List Zone} (hnodup : (zones.map Zone.domain).Nodup) :
    (ofZones zones).zones = zones :=
  zones_insertAll hnodup

theorem Reading.zones_finish {reading : Reading}
    (hnodup : (reading.drafts.map Draft.domain).Nodup) :
    reading.finish.zones = reading.drafts.map Draft.zone :=
  zones_ofZones (by rw [List.map_map]; exact hnodup)

end Layout

end ZoneSync
