import ExportLedger.Proofs.Store.Directory
import ExportLedger.Proofs.Store.Share
/-!
Stores that tell the truth. A store may be told to fail, but what it does answer is so. When it is
asked again later it answers as much as before, and the answers are those of what is there by then.
-/
namespace ExportLedger

/-- Every answer is about what is there. -/
structure Truthful [Container σ] [Visible σ] (s : σ) : Prop where
  listed {names : List String} :
    Container.list s = .ok names → ∀ name, name ∈ names ↔ ∃ content, look s name = some content
  probed {name : String} {held : Bool} :
    Container.exists? s name = .ok held → (held = true ↔ ∃ content, look s name = some content)
  fetched {name : String} {content : ByteArray} :
    Container.download s name = .ok content → look s name = some content

theorem Truthful.look_eq_none [Container σ] [Visible σ] {s : σ} {name : String} (h : Truthful s)
    (hprobed : Container.exists? s name = .ok false) : look s name = none := by
  cases hlook : look s name with
  | none => rfl
  | some content => cases (h.probed hprobed).2 ⟨content, hlook⟩

theorem Truthful.exists?_eq_isSome [Container σ] [Visible σ] {s : σ} {name : String}
    (h : Truthful s) (hprobed : ∃ held, Container.exists? s name = .ok held) :
    Container.exists? s name = .ok (look s name).isSome := by
  obtain ⟨held, hheld⟩ := hprobed
  rw [hheld, Except.ok.injEq, Bool.eq_iff_iff, Option.isSome_iff_exists]
  exact h.probed hheld

/-- A later store answers what the earlier one has answered, and hands out what it says that it
holds. -/
structure Recovers [Container σ] [Container τ] [Visible τ] (s : σ) (t : τ) :
    Prop extends Truthful t where
  lists {names : List String} : Container.list s = .ok names →
    ∃ others, Container.list t = .ok others
  probes {name : String} {held : Bool} :
    Container.exists? s name = .ok held → ∃ other, Container.exists? t name = .ok other
  fetches {name : String} {content : ByteArray} : Container.download s name = .ok content →
    look t name = some content → ∃ other, Container.download t name = .ok other
  hands {name : String} : Container.exists? t name = .ok true →
    ∃ content, Container.download t name = .ok content

namespace Recovers

variable [Container σ] [Container τ] [Visible τ] {s : σ} {t : τ} {name : String}
  {content : ByteArray}

theorem download_eq (h : Recovers s t) (hfetched : Container.download s name = .ok content)
    (hlook : look t name = some content) : Container.download t name = .ok content := by
  obtain ⟨other, hother⟩ := h.fetches hfetched hlook
  cases (h.fetched hother).symm.trans hlook
  exact hother

theorem exists?_eq_true {held : Bool} (h : Recovers s t)
    (hprobed : Container.exists? s name = .ok held) (hlook : look t name = some content) :
    Container.exists? t name = .ok true := by
  obtain ⟨other, hother⟩ := h.probes hprobed
  cases (h.probed hother).2 ⟨content, hlook⟩
  exact hother

theorem exists?_eq_false {held : Bool} (h : Recovers s t)
    (hprobed : Container.exists? s name = .ok held) (hlook : look t name = none) :
    Container.exists? t name = .ok false := by
  obtain ⟨other, hother⟩ := h.probes hprobed
  cases other with
  | false => exact hother
  | true =>
    obtain ⟨content, hsome⟩ := (h.probed hother).1 rfl
    cases hlook.symm.trans hsome

end Recovers

namespace Memory

theorem truthful (s : Memory) : Truthful s where
  listed := by
    intro names h name
    simp only [Container.list, list] at h
    split at h
    · cases h
    · cases h
      exact NameMap.mem_names_iff
  probed := by
    intro name held h
    simp only [Container.exists?, exists?] at h
    split at h
    · cases h
    · cases h
      exact NameMap.contains_eq_true_iff
  fetched := by
    intro name content h
    simp only [Container.download, download] at h
    split at h
    · cases h
    · split at h
      · rename_i hget
        cases h
        exact hget
      · cases h

/-- Whatever has been answered before. -/
theorem Healthy.recovers [Container σ] {t : Memory} (h : t.Healthy) (s : σ) : Recovers s t where
  toTruthful := t.truthful
  lists _ := ⟨_, list_eq h.list⟩
  probes _ := ⟨_, h.exists?_eq _⟩
  fetches _ hlook := ⟨_, download_eq (by simp [h.downloads]) hlook⟩
  hands := by
    intro name hheld
    rw [h.exists?_eq, Except.ok.injEq, NameMap.contains_eq_true_iff] at hheld
    obtain ⟨content, hget⟩ := hheld
    exact ⟨content, download_eq (by simp [h.downloads]) hget⟩

end Memory

namespace Bucket

variable {s : Bucket}

theorem refusal?_eq_none {operation : Operation} (h : ∀ r ∈ s.refusals, r.1 ≠ operation)
    (name : String) :
    s.refusal? operation name = none := by
  rw [refusal?, Option.map_eq_none_iff, List.find?_eq_none]
  intro r hr hrefused
  exact h r hr (of_decide_eq_true hrefused).1

/-- Refused uploads are no lies. -/
theorem truthful (h : ∀ r ∈ s.refusals, r.1 = .upload) : Truthful s where
  listed := by
    intro names hlist name
    simp only [Container.list, list] at hlist
    split at hlist
    · cases hlist
    · cases hlist
      exact NameMap.mem_names_iff
  probed := by
    intro name held hprobe
    have hprobes : ∀ r ∈ s.refusals, r.1 ≠ .probe := by
      intro r hr
      rw [h r hr]
      decide
    have hnone := refusal?_eq_none hprobes name
    simp only [Container.exists?, exists?, hnone] at hprobe
    split at hprobe
    · cases hprobe
    · cases hprobe
      exact NameMap.contains_eq_true_iff
  fetched := by
    intro name content hfetch
    have hdownloads : ∀ r ∈ s.refusals, r.1 ≠ .download := by
      intro r hr
      rw [h r hr]
      decide
    have hnone := refusal?_eq_none hdownloads name
    simp only [Container.download, download, hnone] at hfetch
    split at hfetch
    · cases hfetch
    · split at hfetch
      · rename_i hget
        cases hfetch
        exact hget
      · cases hfetch

end Bucket

namespace Share

variable {s : Share} {name : String}

theorem shown_eq_some_iff {content : ByteArray} : s.shown name = some content ↔
    isPartial name = false ∧ s.directory.entries.get? name = some (.file content) := by
  rw [shown]
  split
  · rename_i hpartial
    simp [hpartial]
  · rename_i hpartial
    rw [Directory.file?_eq_some_iff, Bool.eq_false_iff.2 hpartial, eq_self, true_and]

theorem mem_list_iff_shown {names : List String} (h : Container.list s = .ok names) :
    name ∈ names ↔ ∃ content, s.shown name = some content := by
  cases hentries : s.directory.entries? with
  | none =>
    have hfails : Container.list s = .error _ := list_eq_error_iff.2 ⟨hentries, rfl⟩
    cases h.symm.trans hfails
  | some entries =>
    rw [mem_list_iff hentries h]
    simp only [shown_eq_some_iff, Directory.entries_eq hentries, exists_and_left]

theorem truthful (s : Share) : Truthful s where
  listed h _ := mem_list_iff_shown h
  probed := by
    intro name held h
    cases held with
    | true =>
      obtain ⟨-, names, hlist, hmem⟩ := exists?_eq_true_iff.1 h
      exact ⟨fun _ => (mem_list_iff_shown hlist).1 hmem, fun _ => rfl⟩
    | false =>
      obtain ⟨-, hunlisted⟩ := exists?_eq_false_iff.1 h
      refine ⟨nofun, fun ⟨content, hshown⟩ => ?_⟩
      cases hlist : Container.list s with
      | ok names =>
        exact absurd ((mem_list_iff_shown hlist).2 ⟨content, hshown⟩) (hunlisted names hlist)
      | error e =>
        have hget := (shown_eq_some_iff.1 hshown).2
        rw [Directory.entries, (list_eq_error_iff.1 hlist).1] at hget
        contradiction
  fetched := by
    intro name content h
    cases hvalid : isInvalidName name with
    | true =>
      rw [download_of_invalid hvalid] at h
      contradiction
    | false =>
      rw [download_of_valid hvalid] at h
      cases hread : s.directory.read name with
      | error e =>
        rw [hread] at h
        contradiction
      | ok read =>
        rw [hread] at h
        cases h
        have hget := Directory.file?_eq_some_iff.1 (Directory.file?_of_read hread)
        exact shown_eq_some_iff.2 ⟨isPartial_of_valid hvalid, hget⟩

end Share

end ExportLedger
