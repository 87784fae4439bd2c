import ShuntingYard.Failure
import ShuntingYard.Operator
import ShuntingYard.FunctionTable
import ShuntingYard.Token
import ShuntingYard.Yard
import ShuntingYard.Yard.Move
import ShuntingYard.Text.Ranges
import ShuntingYard.Text.Digit
import ShuntingYard.Text.Letter
import ShuntingYard.Text.CaseContext
import ShuntingYard.Text.Lowercase
import ShuntingYard.Text.Printable
import ShuntingYard.Text.Quoted
import ShuntingYard.Event
import ShuntingYard.Traced
import ShuntingYard.Lexeme
import ShuntingYard.Source
import ShuntingYard.Settings
import ShuntingYard.Classification
import ShuntingYard.Stages
import ShuntingYard.Session
import ShuntingYard.Proofs.Feed
import ShuntingYard.Proofs.Locality
import ShuntingYard.Proofs.Grouping
import ShuntingYard.Proofs.Pipeline
import ShuntingYard.Proofs.Conservation
import ShuntingYard.Proofs.Expression
import ShuntingYard.Demo
import ShuntingYard.Main
import ShuntingYard.Proofs.Writing
import ShuntingYard.Proofs.Settled
import ShuntingYard.Proofs.Verdict
import ShuntingYard.Proofs.Waiting
import ShuntingYard.Proofs.Departure
import ShuntingYard.Proofs.Cutting
import ShuntingYard.Proofs.Recognition
import ShuntingYard.Proofs.Spelling
import ShuntingYard.Proofs.Partition
import ShuntingYard.Proofs.Rereading
import ShuntingYard.Proofs.Encoding
import ShuntingYard.Proofs.Balance
import ShuntingYard.Proofs.Sessions
import ShuntingYard.Proofs.Accounts
import ShuntingYard.Proofs.Quoting
import ShuntingYard.Proofs.Release
import ShuntingYard.Proofs.Splitting
import ShuntingYard.Proofs.Operands
import ShuntingYard.Proofs.Seams
import ShuntingYard.Proofs.Relabelling
import ShuntingYard.Proofs.Words
import ShuntingYard.Proofs.Tables
import ShuntingYard.Proofs.SwappedCase
import ShuntingYard.Proofs.MissingTable
import ShuntingYard.Proofs.Messages
