import ExportLedger.Store.Error
/-!
Stores: what can be asked of one container of named objects. Reading leaves a store as it is;
writing gives the store afterwards, also when it fails.
-/
namespace ExportLedger

class Container (σ : Type) where
  /-- For messages. -/
  name : σ → String
  /-- The names in the container, in the store's own order. -/
  list : σ → Except StoreError (List String)
  download : σ → String → Except StoreError ByteArray
  exists? : σ → String → Except StoreError Bool
  /-- Creates or replaces an object. -/
  upload : σ → String → ByteArray → Except StoreError Unit × σ
  delete : σ → String → Except StoreError Unit × σ

/-- Result files are kept in one store and their records in another. -/
structure Stores (σ τ : Type) where
  share : σ
  blobs : τ

end ExportLedger
