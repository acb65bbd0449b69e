import ExportLedger.Proofs.Store.Plain
import ExportLedger.Proofs.Store.Truthful
/-!
A share over a directory of files, beside a store in memory that holds the same objects. Whatever is
asked of both in the same order, they answer the same, and hold the same objects in the end.
-/
namespace ExportLedger

/-- What is asked of a container. -/
inductive Request where
  | list
  | download (name : String)
  | exists? (name : String)
  | upload (name : String) (content : ByteArray)
  | delete (name : String)

inductive Reply where
  | listing (result : Except StoreError (List String))
  | content (result : Except StoreError ByteArray)
  | held (result : Except StoreError Bool)
  | done (result : Except StoreError Unit)

namespace Reply

/-- The same but for the order in which names are listed. -/
inductive Alike : Reply → Reply → Prop where
  | listed {names others : List String} : names.Perm others →
      Alike (.listing (.ok names)) (.listing (.ok others))
  | same (reply : Reply) : Alike reply reply

end Reply

namespace Request

def name? : Request → Option String
  | list => none
  | download name | exists? name | upload name _ | delete name => some name

/-- The reply to a request that has failed. -/
def failed : Request → StoreError → Reply
  | list, e => .listing (.error e)
  | download _, e => .content (.error e)
  | exists? _, e => .held (.error e)
  | upload _ _, e | delete _, e => .done (.error e)

variable [Container σ]

def send (s : σ) : Request → Reply × σ
  | list => (.listing (Container.list s), s)
  | download name => (.content (Container.download s name), s)
  | exists? name => (.held (Container.exists? s name), s)
  | upload name content =>
    let (result, s) := Container.upload s name content
    (.done result, s)
  | delete name =>
    let (result, s) := Container.delete s name
    (.done result, s)

/-- Every reply, in the order of the requests. -/
def sendAll (s : σ) : List Request → List Reply × σ
  | [] => ([], s)
  | request :: requests =>
    let (reply, s) := send s request
    let (replies, s) := sendAll s requests
    (reply :: replies, s)

/-- A share accepts the name, if there is one, and the file system can store it along with the
partial mark. -/
def Fits (request : Request) : Prop := ∀ name ∈ request.name?, Share.Fits name

end Request

namespace Share

variable {s : Share} {m : Memory} {name : String} {content : ByteArray}

theorem pairwise_objects (entries : NameMap Entry) :
    (entries.entries.filterMap fun e => if isPartial e.1 then none
      else e.2.content?.map (e.1, ·)).Pairwise
      fun a b => a.1 < b.1 := by
  refine entries.ascending.filterMap _ fun a b hlt x hx y hy => ?_
  split at hx
  · cases hx
  · split at hy
    · cases hy
    · obtain ⟨-, -, rfl⟩ := Option.map_eq_some_iff.1 hx
      obtain ⟨-, -, rfl⟩ := Option.map_eq_some_iff.1 hy
      exact hlt

/-- A store in memory that starts with the files of the share, partial ones left out. -/
def inMemory (s : Share) : Memory where
  name := s.name
  objects := ⟨_, pairwise_objects s.directory.entries⟩

theorem look_inMemory (s : Share) : look s.inMemory = look s := by
  funext name
  apply Option.ext
  intro content
  show s.inMemory.objects.get? name = some content ↔ s.shown name = some content
  rw [NameMap.get?_eq_some_iff, shown_eq_some_iff, NameMap.get?_eq_some_iff]
  simp only [inMemory, List.mem_filterMap]
  constructor
  · rintro ⟨⟨n, entry⟩, hmem, hentry⟩
    split at hentry
    · cases hentry
    · rename_i hpartial
      obtain ⟨found, hfound, hsame⟩ := Option.map_eq_some_iff.1 hentry
      cases hsame
      cases entry with
      | file content =>
        cases hfound
        exact ⟨Bool.eq_false_iff.2 hpartial, hmem⟩
      | folder => cases hfound
  · rintro ⟨hpartial, hmem⟩
    refine ⟨_, hmem, ?_⟩
    simp [hpartial, Entry.content?]

/-- The store in memory answers whatever it is asked, and holds what is seen of the share. -/
structure Mirrors (s : Share) (m : Memory) : Prop where
  plain : s.directory.Plain
  healthy : m.Healthy
  name : m.name = s.name
  objects : m.objects.get? = s.shown

theorem mirrors_inMemory (h : s.directory.Plain) : Mirrors s s.inMemory :=
  ⟨h, ⟨rfl, rfl, rfl, rfl⟩, rfl, look_inMemory s⟩

theorem shown_erase (s : Share) (name : String) :
    ({ s with directory := .ofEntries (s.directory.entries.erase name) } : Share).shown =
      Function.update s.shown name none := by
  funext n
  rw [Function.update_apply, shown, shown]
  split
  · simp
  · exact (congrFun (Directory.file?_erase s.directory.entries name) n).trans
      (Function.update_apply _ _ _ _)

namespace Mirrors

theorem alike_list (h : Mirrors s m) :
    Reply.Alike (.listing (Container.list s)) (.listing (Container.list m)) := by
  obtain ⟨names, hlist, hnodup⟩ := list_of_plain h.plain
  rw [hlist, Memory.list_eq h.healthy.list]
  refine .listed ((List.perm_ext_iff_of_nodup hnodup m.objects.nodup_names).2 fun name => ?_)
  rw [mem_list_iff_shown hlist, NameMap.mem_names_iff, h.objects]

theorem download_eq (h : Mirrors s m) (hname : Fits name) :
    Container.download s name = Container.download m name := by
  rw [download_of_plain h.plain hname, h.healthy.download_eq_elim, h.objects, h.name]

theorem exists?_eq (h : Mirrors s m) (hname : Fits name) :
    Container.exists? s name = Container.exists? m name := by
  rw [exists?_of_plain h.plain hname, h.healthy.exists?_eq, NameMap.contains, h.objects]

theorem upload (h : Mirrors s m) (hname : Fits name) (content : ByteArray) :
    (Container.upload s name content).1 = (Container.upload m name content).1 ∧
      Mirrors (Container.upload s name content).2 (Container.upload m name content).2 := by
  obtain ⟨directory, hupload, hplain⟩ := upload_of_plain h.plain hname content
  rw [hupload, Memory.upload_eq]
  refine ⟨rfl, hplain, h.healthy.alike (Memory.alike_objects _ _), h.name, ?_⟩
  rw [shown_of_uploaded hupload, ← h.objects, NameMap.get?_insert_eq_update]

theorem delete (h : Mirrors s m) (hname : Fits name) :
    (Container.delete s name).1 = (Container.delete m name).1 ∧
      Mirrors (Container.delete s name).2 (Container.delete m name).2 := by
  have hreply : (Container.delete m name).1 =
      (s.shown name).elim (.error (.notFound s.name name)) fun _ => .ok () := by
    rw [Memory.fst_delete, h.healthy.deletes, if_neg List.not_mem_nil, NameMap.contains,
      h.objects, h.name]
    cases s.shown name <;> rfl
  have hobjects : (Container.delete m name).2.objects.get? = Function.update s.shown name none := by
    funext n
    rw [Memory.get?_delete, h.healthy.deletes, h.objects, Function.update_apply]
    simp
  have halike := Memory.alike_delete m name
  rw [delete_of_plain h.plain hname, hreply]
  cases hshown : s.shown name with
  | none =>
    have hnothing : Function.update s.shown name none = s.shown := by
      rw [← hshown, Function.update_eq_self]
    exact ⟨rfl, h.plain, h.healthy.alike halike, halike.name.trans h.name, hobjects.trans hnothing⟩
  | some content =>
    exact ⟨rfl, h.plain.erase name, h.healthy.alike halike, halike.name.trans h.name,
      hobjects.trans (shown_erase s name).symm⟩

theorem send (h : Mirrors s m) {request : Request} (hfits : request.Fits) :
    (request.send s).1.Alike (request.send m).1 ∧
      Mirrors (request.send s).2 (request.send m).2 := by
  cases request with
  | list => exact ⟨h.alike_list, h⟩
  | download name =>
    refine ⟨?_, h⟩
    simp only [Request.send, h.download_eq (hfits name rfl)]
    exact .same _
  | exists? name =>
    refine ⟨?_, h⟩
    simp only [Request.send, h.exists?_eq (hfits name rfl)]
    exact .same _
  | upload name content =>
    obtain ⟨hreply, hafter⟩ := h.upload (hfits name rfl) content
    refine ⟨?_, hafter⟩
    simp only [Request.send, hreply]
    exact .same _
  | delete name =>
    obtain ⟨hreply, hafter⟩ := h.delete (hfits name rfl)
    refine ⟨?_, hafter⟩
    simp only [Request.send, hreply]
    exact .same _

theorem sendAll (h : Mirrors s m) {requests : List Request}
    (hfits : ∀ request ∈ requests, request.Fits) :
    List.Forall₂ Reply.Alike (Request.sendAll s requests).1 (Request.sendAll m requests).1 ∧
      Mirrors (Request.sendAll s requests).2 (Request.sendAll m requests).2 := by
  induction requests generalizing s m with
  | nil => exact ⟨.nil, h⟩
  | cons request requests ih =>
    obtain ⟨hreply, hnext⟩ := h.send (hfits request List.mem_cons_self)
    obtain ⟨hreplies, hafter⟩ := ih hnext fun r hr => hfits r (List.mem_cons_of_mem _ hr)
    exact ⟨.cons hreply hreplies, hafter⟩

end Mirrors

/-- A name that the share does not accept is told as such, and nothing happens. -/
theorem send_of_invalid {request : Request} (hname : request.name? = some name)
    (hinvalid : isInvalidName name = true) (s : Share) :
    request.send s = (request.failed (.unavailable s.name .resolve (.invalidName name)), s) := by
  have hresolve := resolve_of_invalid (s := s) hinvalid
  cases request with
  | list => cases hname
  | download n =>
    cases hname
    rw [Request.send, download_of_invalid hinvalid, Request.failed]
  | exists? n =>
    cases hname
    rw [Request.send, exists?_of_invalid hinvalid, Request.failed]
  | upload n content =>
    cases hname
    simp only [Request.send, Container.upload, upload, hresolve, Request.failed]
  | delete n =>
    cases hname
    simp only [Request.send, Container.delete, delete, hresolve, Request.failed]

/-- A share over a directory of files, whatever the size of its chunks, behaves like a store in
memory that starts with the same files. Requests about names that it does not accept are refused and
change nothing. -/
theorem sendAll_inMemory (hplain : s.directory.Plain) :
    (∀ requests : List Request, (∀ request ∈ requests, request.Fits) →
      List.Forall₂ Reply.Alike (Request.sendAll s requests).1
        (Request.sendAll s.inMemory requests).1 ∧
        look (Request.sendAll s requests).2 = look (Request.sendAll s.inMemory requests).2) ∧
    ∀ (t : Share) (request : Request) (name : String), request.name? = some name →
    isInvalidName name = true →
      request.send t = (request.failed (.unavailable t.name .resolve (.invalidName name)), t) := by
  refine ⟨fun requests hfits => ?_, fun t request name hname hinvalid =>
    send_of_invalid hname hinvalid t⟩
  obtain ⟨hreplies, hafter⟩ := (mirrors_inMemory hplain).sendAll hfits
  exact ⟨hreplies, hafter.objects.symm⟩

/-- With a file, what is left of an upload that was broken off, and chunks of no size. -/
def brokenOff : Share where
  name := "results"
  directory := .ofEntries
    (.ofList [("TARS1.xml", .file "x".toUTF8), ("TARS2.xml.partial", .file "half".toUTF8)])
  chunkBytes := 0

/-- The upload is made up for, and the older file is deleted. -/
def resumption : List Request :=
  [.list, .upload "TARS2.xml" "whole".toUTF8, .delete "TARS1.xml", .download "TARS1.xml",
    .download "TARS2.xml"]

theorem sendAll_inMemory_brokenOff :
    brokenOff.directory.Plain ∧ (∀ request ∈ resumption, request.Fits) ∧
      (Request.sendAll brokenOff.inMemory resumption).1 =
        [.listing (.ok ["TARS1.xml"]), .done (.ok ()), .done (.ok ()),
          .content (.error (.notFound "results" "TARS1.xml")), .content (.ok "whole".toUTF8)] ∧
      List.Forall₂ Reply.Alike (Request.sendAll brokenOff resumption).1
        (Request.sendAll brokenOff.inMemory resumption).1 ∧
      look (Request.sendAll brokenOff resumption).2 =
        look (Request.sendAll brokenOff.inMemory resumption).2 ∧
      Request.send brokenOff (.download "TARS2.xml.partial") =
        (.content (.error (.unavailable "results" .resolve (.invalidName "TARS2.xml.partial"))),
          brokenOff) := by
  have hplain : brokenOff.directory.Plain :=
    Directory.plain_of_all_isFile (by decide) (by decide +kernel)
  have hfirst : Fits "TARS1.xml" := ⟨by decide +kernel, by decide +kernel, by decide +kernel⟩
  have hsecond : Fits "TARS2.xml" := ⟨by decide +kernel, by decide +kernel, by decide +kernel⟩
  have hfits : ∀ request ∈ resumption, request.Fits := by
    intro request hrequest name hname
    simp only [resumption, List.mem_cons, List.not_mem_nil, or_false] at hrequest
    rcases hrequest with rfl | rfl | rfl | rfl | rfl <;> cases hname
    · exact hsecond
    · exact hfirst
    · exact hfirst
    · exact hsecond
  obtain ⟨hsame, hrefused⟩ := sendAll_inMemory hplain
  obtain ⟨hreplies, hafter⟩ := hsame resumption hfits
  exact ⟨hplain, hfits, rfl, hreplies, hafter,
    hrefused brokenOff (.download "TARS2.xml.partial") _ rfl (by decide +kernel)⟩

end Share

end ExportLedger
