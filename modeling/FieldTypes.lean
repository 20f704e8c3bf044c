import FieldTypes.Catalog.Emission
import FieldTypes.Catalog.Summary
import FieldTypes.CommandLine
import FieldTypes.Cpp.ClassDeclaration
import FieldTypes.Cpp.MemberDefinitions
import FieldTypes.Cpp.TemplateDefinitions
import FieldTypes.Dispatch.Call
import FieldTypes.Generation.Run
import FieldTypes.Json.Printer
import FieldTypes.Main
import FieldTypes.Schema.Decoding
import FieldTypes.Schema.Encoding
import FieldTypes.Template.Reader
import FieldTypes.Template.Rendering
import FieldTypes.Proofs.JsonParts
import FieldTypes.Proofs.StrictReading
import FieldTypes.Proofs.Consistency
import FieldTypes.Proofs.Construction
import FieldTypes.Proofs.Decoding
import FieldTypes.Proofs.DispatchTemplate
import FieldTypes.Proofs.IntegerText
import FieldTypes.Proofs.JsonSize
import FieldTypes.Proofs.Normalization
import FieldTypes.Proofs.PrintedText
import FieldTypes.Proofs.ReadingBounds
import FieldTypes.Proofs.SchemaText
import FieldTypes.Proofs.SourceAgreement
import FieldTypes.Proofs.ReadingFuel
import FieldTypes.Proofs.WellFormedness
import FieldTypes.Proofs.CallArguments
import FieldTypes.Proofs.Evaluation
import FieldTypes.Proofs.CascadeReading
import FieldTypes.Proofs.DocumentGrammar
import FieldTypes.Proofs.TextLines
import FieldTypes.Proofs.SourceReading
import FieldTypes.Catalog.Tables
import FieldTypes.Proofs.ByteOrder
import FieldTypes.Proofs.CatalogHistory
import FieldTypes.Proofs.StoreView
import FieldTypes.Proofs.PathPlaces
import FieldTypes.Proofs.FileWriting
import FieldTypes.Proofs.RunPlan
import FieldTypes.Proofs.TemplateFiles
import FieldTypes.Proofs.RunFaults
import FieldTypes.Proofs.RunInputs
import FieldTypes.Proofs.Regeneration
import FieldTypes.Proofs.Lookup
import FieldTypes.Proofs.KeyedForm
import FieldTypes.Proofs.PageTemplates
import FieldTypes.Proofs.StandardTemplates
import FieldTypes.Proofs.StandardRendering
import FieldTypes.Proofs.HeaderText
import FieldTypes.Proofs.GetterAgreement
import FieldTypes.Proofs.FirstOffence
import FieldTypes.Proofs.FirstRepetition
import FieldTypes.Proofs.RepeatedNames
import FieldTypes.Proofs.EntityChanges
import FieldTypes.Proofs.FaultLocation
import FieldTypes.Proofs.Presentation
import FieldTypes.Proofs.SchemaHistory
import FieldTypes.Proofs.PathPatterns
import FieldTypes.Proofs.PresetArtifacts
import FieldTypes.Proofs.TemplateLoading
import FieldTypes.Proofs.FileNames
import FieldTypes.Proofs.SourcePaths
import FieldTypes.Proofs.CommentText
import FieldTypes.Proofs.RegistryReading
import FieldTypes.Proofs.WriteEffect
import FieldTypes.Proofs.ScopedRendering
import FieldTypes.Proofs.RepetitionKinds
import FieldTypes.Proofs.TextOutline
import FieldTypes.Proofs.SplicedNames
import FieldTypes.Proofs.Indentation
import FieldTypes.Proofs.DocumentationLines
import FieldTypes.Proofs.ClassNames
import FieldTypes.Proofs.ParamTables
import FieldTypes.Proofs.InclusionDepth
