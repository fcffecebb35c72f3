namespace RuleGraph.Yaml

/-- A tag as written: the handle of a declared namespace, and the name in it. Names are bytes,
    since escapes in them need not make text. -/
structure RawTag where
  /-- The handle, empty for a tag that is spelled out. -/
  handle : String
  /-- The name. -/
  suffix : List UInt8
  deriving Repr, DecidableEq

/-- A token. The layout of a source is made plain by tokens of its own: where a block starts and
    ends, and where a key comes before its colon. -/
inductive Token where
  /-- The version that a document asks for. -/
  | versionDirective (major minor : Nat)
  /-- The namespace that a handle stands for. -/
  | tagDirective (handle : String) (space : List UInt8)
  | documentStart
  | documentEnd
  | blockSequenceStart
  | blockMappingStart
  | blockEnd
  | flowSequenceStart
  | flowSequenceEnd
  | flowMappingStart
  | flowMappingEnd
  | blockEntry
  | flowEntry
  | key
  | value
  | anchor (name : String)
  | alias (name : String)
  | tag (tag : RawTag)
  /-- A scalar; `plain` says that it has no quotes and is no block. -/
  | scalar (plain : Bool) (text : String)
  deriving Repr, DecidableEq

end RuleGraph.Yaml
