import ErpLens.Value.Basic

/-!
# Outside services

A `Service` says what the language model and the store of embedded chunks answer, and a `Request`
what was asked of them, in the order of asking.
-/

namespace ErpLens

inductive Reply where
  | text (value : String)
  | nothing
  | failure (message : String)
deriving Repr, DecidableEq

structure Hit where
  document : Value
  metadata : Value
  distance : Value

structure Service where
  reply : Reply
  hits : List Hit := []
  count : Int := 0
  collectionFailures : Nat := 0

structure StoredChunk where
  id : String
  document : Value
  metadata : Fields

inductive Request where
  | configure (key : String)
  | openStore (path : String)
  | openCollection (name : String)
  | store (chunk : StoredChunk)
  /-- A look-up of the chunks nearest to a text, in one file if one is given. -/
  | nearest (text : String) (count : Value) (file : Option String)
  | generate (model prompt : String)

def Request.toValue : Request → Value
  | .configure key => .ofFields [("call", .str "configure"), ("api_key", .str key)]
  | .openStore path => .ofFields [("call", .str "client"), ("path", .str path)]
  | .openCollection name => .ofFields [("call", .str "collection"), ("name", .str name),
      ("metadata", .ofFields [("hnsw:space", .str "cosine")])]
  | .store chunk => .ofFields [("call", .str "add"), ("ids", .strs [chunk.id]),
      ("documents", .list [chunk.document]), ("metadatas", .list [.ofFields chunk.metadata])]
  | .nearest question count file => .ofFields [("call", .str "query"),
      ("query_texts", .strs [question]), ("n_results", count),
      ("where", match file with
        | none => .null
        | some name => .ofFields [("file", .str name)])]
  | .generate model prompt => .ofFields [("call", .str "generate"), ("model", .str model),
      ("prompt", .str prompt)]

end ErpLens
