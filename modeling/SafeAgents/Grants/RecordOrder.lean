import SafeAgents.Grants.LedgerClock
import SafeAgents.Schemas.IsoRange

namespace SafeAgents.Grants

open Calendar

-- The instant an aware timestamp names.
def Denotes (ts : String) (t : Int) : Prop := ∃ d offset, fromisoformat ts = some d ∧ d.offset = some offset ∧ t = d.clock - offset

def OrderAgrees (ts ts' : String) : Prop := ∀ t t', Denotes ts t → Denotes ts' t' → (ts < ts' ↔ t < t') ∧ (ts' < ts ↔ t' < t) ∧ (ts = ts' ↔ t = t')

-- The spelling `datetime.isoformat` gives an instant, which is the one the ceremony writes.
def Isoformatted (ts : String) : Prop := ∃ t, Representable t ∧ ts = isoformat t

theorem Denotes.unique {ts : String} {t t' : Int} (h : Denotes ts t) (h' : Denotes ts t') : t = t' := by
  obtain ⟨d,offset,hread,hoffset,rfl⟩ := h
  obtain ⟨d',offset',hread',hoffset',rfl⟩ := h'
  obtain rfl := Option.some.inj (hread.symm.trans hread')
  obtain rfl := Option.some.inj (hoffset.symm.trans hoffset')
  rfl

theorem denotes_isoformat {t : Int} (h : Representable t) : Denotes (isoformat t) t :=
  ⟨_,0,fromisoformat_isoformat h,rfl,(Int.sub_zero t).symm⟩

theorem accepted_denotes {ts : String} (h : validateRecordTs ts = .ok ()) : ∃ t, Representable t ∧ Denotes ts t := by
  rw [validateRecordTs] at h
  split at h
  · cases h
  next d hread =>
    split at h
    · cases h
    next offset hoffset =>
      split at h
      · cases h
      next hutc =>
        have hzero : offset = 0 := by
          by_contra hne
          exact hutc (.inl hne)
        exact ⟨d.clock,fromisoformat_representable hread,d,offset,hread,hoffset,by rw [hzero,Int.sub_zero]⟩

theorem isoformatted_agree {ts ts' : String} (h : Isoformatted ts) (h' : Isoformatted ts') : OrderAgrees ts ts' := by
  obtain ⟨t,ht,rfl⟩ := h
  obtain ⟨t',ht',rfl⟩ := h'
  intro u u' hu hu'
  obtain rfl := (denotes_isoformat ht).unique hu
  obtain rfl := (denotes_isoformat ht').unique hu'
  exact ⟨isoformat_lt_iff ht ht',isoformat_lt_iff ht' ht,isoformat_inj ht ht'⟩

theorem record_timestamps_order {ts : String} (h : validateRecordTs ts = .ok ()) :
    (∀ ts', Isoformatted ts' → validateRecordTs ts' = .ok () ∧ OrderAgrees ts ts') ↔ Isoformatted ts := by
  constructor
  · intro hagree
    obtain ⟨t,ht,hdenotes⟩ := accepted_denotes h
    obtain ⟨-,horder⟩ := hagree (isoformat t) ⟨t,ht,rfl⟩
    exact ⟨t,ht,(horder t t hdenotes (denotes_isoformat ht)).2.2.mpr rfl⟩
  · intro hts ts' hts'
    refine ⟨?_,isoformatted_agree hts hts'⟩
    obtain ⟨t,ht,rfl⟩ := hts'
    exact validateRecordTs_isoformat ht

theorem record_timestamps_order_noon : validateRecordTs (isoformat 43200000000) = .ok () ∧
    ∀ ts', Isoformatted ts' → validateRecordTs ts' = .ok () ∧ OrderAgrees (isoformat 43200000000) ts' := by
  have haccepted : validateRecordTs (isoformat 43200000000) = .ok () := validateRecordTs_isoformat (by decide)
  exact ⟨haccepted,(record_timestamps_order haccepted).mpr ⟨43200000000,by decide,rfl⟩⟩

-- The separator between date and time is any character, and a space sorts before the `T` of the ceremony's own stamps.
theorem accepted_of_read {ts : String} {d : Datetime} (hread : fromisoformat ts = some d) (hutc : d.offset = some 0)
    (hzone : zone <:+ ts.toList) : validateRecordTs ts = .ok () ∧ Denotes ts d.clock := by
  constructor
  · rw [validateRecordTs,hread]
    simp only [hutc]
    rw [if_neg (by simp [hzone])]
  · exact ⟨d,0,hread,hutc,(Int.sub_zero _).symm⟩

theorem separator_reorders : ∃ ts ts' t t', validateRecordTs ts = .ok () ∧ validateRecordTs ts' = .ok () ∧ Denotes ts t ∧ Denotes ts' t' ∧
    ts < ts' ∧ t' < t := by
  have hread : fromisoformat "2026-01-01 23:00:00+00:00" = some ⟨1767308400000000,some 0⟩ := by decide
  have hread' : fromisoformat "2026-01-01T01:00:00+00:00" = some ⟨1767229200000000,some 0⟩ := by decide
  obtain ⟨haccepted,hdenotes⟩ := accepted_of_read hread rfl (by decide)
  obtain ⟨haccepted',hdenotes'⟩ := accepted_of_read hread' rfl (by decide)
  exact ⟨_,_,_,_,haccepted,haccepted',hdenotes,hdenotes',by decide,by decide⟩

end SafeAgents.Grants
