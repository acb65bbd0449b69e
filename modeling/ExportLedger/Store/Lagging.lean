import ExportLedger.Store.Basic
/-!
A store whose listing lags behind: it still reports names that may be gone.
-/
namespace ExportLedger

structure Lagging (σ : Type) where
  store : σ
  /-- Reported after the names that the store itself lists. -/
  extraNames : List String := []

namespace Lagging

instance [Container σ] : Container (Lagging σ) where
  name s := Container.name s.store
  list s := (Container.list s.store).map (· ++ s.extraNames)
  download s := Container.download s.store
  exists? s := Container.exists? s.store
  upload s name content :=
    let (result, store) := Container.upload s.store name content
    (result, { s with store })
  delete s name :=
    let (result, store) := Container.delete s.store name
    (result, { s with store })

end Lagging

end ExportLedger
