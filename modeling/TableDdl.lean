import TableDdl.Main
import TableDdl.Schema.ToJson
import TableDdl.Proofs.Dialect.Selection
import TableDdl.Proofs.DryRun
import TableDdl.Proofs.IntegerDefault
import TableDdl.Proofs.Irrelevance
import TableDdl.Proofs.KeyCount
import TableDdl.Proofs.Lexical.Clause
import TableDdl.Proofs.Lexical.Condition
import TableDdl.Proofs.Lexical.Index
import TableDdl.Proofs.Lexical.Statement
import TableDdl.Proofs.Literal.Boolean
import TableDdl.Proofs.Literal.Date
import TableDdl.Proofs.Literal.Integer
import TableDdl.Proofs.NativeType
import TableDdl.Proofs.Operand.Statement
import TableDdl.Proofs.Run
import TableDdl.Proofs.Schema.Accounting
import TableDdl.Proofs.Schema.MemberOrder
import TableDdl.Proofs.Schema.RoundTrip
import TableDdl.Proofs.Template
import TableDdl.Proofs.TypeSize
