import SymbolAtlas.Main
import SymbolAtlas.Store.Fault
import SymbolAtlas.Proofs.Command.Rebuilding
import SymbolAtlas.Proofs.Export.MarkdownDecoding
import SymbolAtlas.Proofs.Export.Partition
import SymbolAtlas.Proofs.Export.XmlDecoding
import SymbolAtlas.Proofs.Extract.CallSites
import SymbolAtlas.Proofs.Extract.ErrorLine
import SymbolAtlas.Proofs.Extract.JavaArguments
import SymbolAtlas.Proofs.Extract.JavaHeaders
import SymbolAtlas.Proofs.Extract.JavaInheritance
import SymbolAtlas.Proofs.Extract.JavaLocals
import SymbolAtlas.Proofs.Extract.JavaNames
import SymbolAtlas.Proofs.Extract.JavaOwnMethods
import SymbolAtlas.Proofs.Extract.ModulePaths
import SymbolAtlas.Proofs.Extract.OneLine
import SymbolAtlas.Proofs.Extract.PythonCalls
import SymbolAtlas.Proofs.Extract.PythonScopes
import SymbolAtlas.Proofs.Extract.RustCalls
import SymbolAtlas.Proofs.Extract.RustScopes
import SymbolAtlas.Proofs.Extract.SourceOrder
import SymbolAtlas.Proofs.Files.WalkingOrder
import SymbolAtlas.Proofs.Index.Accounting
import SymbolAtlas.Proofs.Index.Dispatch
import SymbolAtlas.Proofs.Index.Isolation
import SymbolAtlas.Proofs.Index.KnownTypes
import SymbolAtlas.Proofs.Index.Observing
import SymbolAtlas.Proofs.Index.Placement
import SymbolAtlas.Proofs.Index.Relative
import SymbolAtlas.Proofs.Request.Shape
import SymbolAtlas.Proofs.Store.Closing
import SymbolAtlas.Proofs.Store.Displayed
import SymbolAtlas.Proofs.Store.Growth
import SymbolAtlas.Proofs.Store.History
import SymbolAtlas.Proofs.Store.Limits
import SymbolAtlas.Proofs.Store.Outcomes
import SymbolAtlas.Proofs.Store.Readable
