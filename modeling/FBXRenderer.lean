import FBXRenderer.Container.StringHashMapDict
import FBXRenderer.Container.StringHashMapRebuild
import FBXRenderer.Container.StringHashMapRuns
import FBXRenderer.Lib.Scatter
import FBXRenderer.Importer.IndexData
import FBXRenderer.Importer.IndexLayout
import FBXRenderer.Container.PooledList
import FBXRenderer.Lib.FirstFit
import FBXRenderer.Importer.Dedup
import FBXRenderer.Importer.CornerIndex
import FBXRenderer.Importer.CornersHeld
import FBXRenderer.Importer.FanValues
import FBXRenderer.Importer.Winding
import FBXRenderer.Engine.Vector
import FBXRenderer.Importer.Extract
import FBXRenderer.Importer.Skin
import FBXRenderer.Importer.SkinSlots
import FBXRenderer.Importer.SkinWeights
import FBXRenderer.Engine.DirectXMath
import FBXRenderer.Lib.IndexTree
import FBXRenderer.Lib.PreorderList
import FBXRenderer.Lib.GridWrites
import FBXRenderer.Lib.Compact
import FBXRenderer.Asset.Skeleton
import FBXRenderer.Importer.FbxNode
import FBXRenderer.Importer.ImportSkeleton
import FBXRenderer.Importer.SkeletonTree
import FBXRenderer.Importer.SkeletonNodes
import FBXRenderer.Asset.SkeletonAnim
import FBXRenderer.Asset.BindPose
import FBXRenderer.Asset.KeyPose
import FBXRenderer.Asset.FrameRead
import FBXRenderer.Asset.JointWrites
import FBXRenderer.Asset.Material
import FBXRenderer.Asset.ShaderReflection
import FBXRenderer.Asset.ShaderAsset
import FBXRenderer.Engine.RendererAssets
import FBXRenderer.Engine.RendererInit
import FBXRenderer.Engine.RendererCleanUp
import FBXRenderer.Asset.MaterialBuffers
import FBXRenderer.Importer.Geometry
import FBXRenderer.Importer.Traverse
import FBXRenderer.Importer.TraverseShaders
import FBXRenderer.Importer.ShaderFit
import FBXRenderer.Importer.AssetTree
import FBXRenderer.Importer.SceneTaken
import FBXRenderer.Importer.ImportAnim
import FBXRenderer.Lib.Sampling
import FBXRenderer.Engine.Input
import FBXRenderer.Container.SHasher
import FBXRenderer.Lib.LinkedChain
import FBXRenderer.Lib.Handles
import FBXRenderer.Lib.FailFast
import FBXRenderer.Container.PooledLinkedList
import FBXRenderer.Asset.AssetManagerContainer
import FBXRenderer.Asset.AssetPools
import FBXRenderer.Engine.TransformAlgebra
import FBXRenderer.Importer.SkinVertices
import FBXRenderer.Container.PooledLinkedListFull
import FBXRenderer.Container.PooledListRuns
import FBXRenderer.Container.PooledListObjects
import FBXRenderer.Importer.IndexChecked
import FBXRenderer.Importer.Tangents
import FBXRenderer.Importer.AssetNames
import FBXRenderer.Asset.MergedTable
import FBXRenderer.Engine.ShaderManagerInit
import FBXRenderer.Engine.CameraPitch
import FBXRenderer.Container.FixedList
import FBXRenderer.Container.FixedStringRuns
import FBXRenderer.Importer.FileName
import FBXRenderer.Importer.FileNameWide
import FBXRenderer.Lib.Decimal
import FBXRenderer.Importer.MaterialKeys
import FBXRenderer.Lib.ByteReads
import FBXRenderer.Container.CityHash
import FBXRenderer.Container.CityHashReads
import FBXRenderer.Container.CityHashSeed
import FBXRenderer.Container.SHasherPool
import FBXRenderer.Lib.CommandStream
import FBXRenderer.Engine.DeviceContext
import FBXRenderer.Engine.Draw
import FBXRenderer.Engine.DrawScene
import FBXRenderer.Engine.DrawState
import FBXRenderer.Engine.DrawSkeleton
import FBXRenderer.Lib.Stopwatch
import FBXRenderer.Engine.FrameInfo
import FBXRenderer.Engine.Camera
import FBXRenderer.Lib.MessageLoop
import FBXRenderer.Engine.MainLoop
import FBXRenderer.Lib.Cells
import FBXRenderer.Asset.PbrMaterial
import FBXRenderer.Engine.MaterialPanel
import FBXRenderer.Lib.LinearBlend
import FBXRenderer.Engine.VertexShader
import FBXRenderer.Lib.Perspective
import FBXRenderer.Engine.Projection
import FBXRenderer.Lib.UnitVector
import FBXRenderer.Engine.PixelShader
import FBXRenderer.Engine.RendererShutdown
import FBXRenderer.Engine.SamplerPool
