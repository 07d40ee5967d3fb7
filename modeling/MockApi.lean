import MockApi.Main
import MockApi.Proofs.Reference.Cycle
import MockApi.Proofs.Reference.Termination
import MockApi.Proofs.Reference.Unfolding
import MockApi.Proofs.Schema.NullablePaths
import MockApi.Proofs.Mock.Conformance
import MockApi.Proofs.Output.History
import MockApi.Proofs.Output.Modules
import MockApi.Proofs.Mock.Bounds
import MockApi.Proofs.Mock.Flattening
import MockApi.Proofs.Mock.Override
import MockApi.Proofs.Output.Unwritten
import MockApi.Proofs.Reference.Isolation
import MockApi.Proofs.Reference.AllOf
import MockApi.Proofs.Mock.SeededIds
import MockApi.Proofs.Output.ForeignFiles
import MockApi.Proofs.Mock.Oblivious
import MockApi.Proofs.Schema.Overlaid
import MockApi.Proofs.Mock.SavedSettings
import MockApi.Proofs.Mock.Scalars
import MockApi.Proofs.Mock.Termination
import MockApi.Proofs.Mock.HiddenExamples
import MockApi.Proofs.Mock.Recorder
import MockApi.Proofs.Spec.Grouping
import MockApi.Proofs.Reference.Response
import MockApi.Proofs.Mock.GeneratorCall
import MockApi.Proofs.Mock.PatternCall
import MockApi.Proofs.Sample.Multiple
import MockApi.Proofs.Sample.Letters
import MockApi.Proofs.Mock.RegExpLiteral
import MockApi.Proofs.Mock.DeepMerge
import MockApi.Proofs.Mock.Report
import MockApi.Proofs.Reference.Name
import MockApi.Proofs.Sample.Anchors
import MockApi.Proofs.Output.ModuleKeys
import MockApi.Proofs.Spec.BoundOrder
import MockApi.Proofs.Sample.ClassEscapes
import MockApi.Proofs.Mock.ItemPosition
import MockApi.Proofs.Mock.IdRange
import MockApi.Proofs.Mock.ObjectKeys
