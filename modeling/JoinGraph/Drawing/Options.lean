import JoinGraph.Json.Decoding

/-!
# Drawing options

What may be left out of a drawing. An option that is not given counts as on.
-/

namespace JoinGraph

open Json (Decoder Fields)

/-- The options of a drawing. -/
structure Options where
  inferJoins? : Option Bool
  aliasJoins? : Option Bool
  deriving DecidableEq, Repr, Inhabited

namespace Options

/-- The options when none is given. -/
def default : Options := ⟨none, none⟩

/-- Whether joins are guessed between tables of which no join could be read. -/
def infersJoins (o : Options) : Bool := o.inferJoins?.getD true

/-- Whether joins are also drawn between aliases. -/
def drawsAliasJoins (o : Options) : Bool := o.aliasJoins?.getD true

/-- The fields of the options. -/
def fields : Fields Options :=
  Options.mk <$> .optional "inferJoins" .flag <*> .optional "aliasJoins" .flag

/-- Reads options. -/
def decode : Decoder Options := .record "GraphOptions" fields

/-- Writes options; those that are not given are left out. -/
def toJson (o : Options) : Json :=
  .object (Json.optionalMember "inferJoins" .bool o.inferJoins?
    ++ Json.optionalMember "aliasJoins" .bool o.aliasJoins?)

end Options

end JoinGraph
